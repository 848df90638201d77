/-
# The bundled flows

The six flows that a desk answers with unless it is given others: client
profiles, meetings with a client, the agenda of the day and of the week,
financial news, and help.
-/

import FlowDesk.Flow.File

namespace FlowDesk.Bundled

/-- A slot of a template. -/
def slot (path : String) : String := "$\x7b" ++ path ++ "\x7d"

/-- A step that runs an operation and goes on by its success. -/
def ask (id name operation : String) (args : Fields) (bindings : List String)
    (onSuccess onFailure : String) : String × Step :=
  (id, ⟨id, name, none, .operation operation args bindings (some onSuccess) (some onFailure)⟩)

/-- A step that goes one of two ways. -/
def check (id name : String) (guard : Guard) (onTrue onFalse : String) : String × Step :=
  (id, ⟨id, name, none, .branch guard (some onTrue) (some onFalse)⟩)

/-- A step that renders the last response of a run. -/
def say (id name template : String) : String × Step :=
  (id, ⟨id, name, none, .response template⟩)

/-- The step that looks for a client's name in the message. -/
def extractName (onSuccess : String) : String × Step :=
  ask "extract_client_name" "Extract Client Name" "extract_client_name"
    [("message", .text (slot "message"))] ["client_name"] onSuccess "client_name_not_found"

/-- The profile of a client named in the message. -/
def clientLookup : Flow where
  id := "client_lookup"
  name := "Client Lookup"
  description := "Find a client named in the message and show their profile"
  trigger := ⟨.keyword,
    [ "profilo cliente", "informazioni cliente", "dettagli cliente",
      "client profile", "client details", "client information" ]⟩
  initialStep := "extract_client_name"
  steps :=
    [ extractName "get_client_info",
      ask "get_client_info" "Get Client Info" "get_client_context"
        [("client_name", .text (slot "client_name")), ("query", .text (slot "message"))]
        ["client_id", "client_info"] "check_onboarding" "client_not_found",
      check "check_onboarding" "Check Onboarding"
        ⟨"variables.client_info.is_onboarded", .equal, .bool true⟩
        "format_client_response" "onboarding_pending",
      say "format_client_response" "Format Client Response"
        ("Here is the profile of " ++ slot "client_info.first_name" ++ " " ++
          slot "client_info.last_name" ++ ":\nEmail: " ++ slot "client_info.email" ++
          "\nPhone: " ++ slot "client_info.phone" ++
          "\nRisk profile: " ++ slot "client_info.risk_profile" ++
          "\nTotal assets: " ++ slot "client_info.total_assets" ++
          " EUR\nNotes: " ++ slot "client_info.notes"),
      say "onboarding_pending" "Onboarding Pending"
        (slot "client_info.name" ++
          " has not completed onboarding yet, so only contact details are available.\nEmail: " ++
          slot "client_info.email" ++ "\nPhone: " ++ slot "client_info.phone"),
      say "client_name_not_found" "Client Name Not Found"
        ("I could not identify the client's name in your message. " ++
          "Could you give me the full name?"),
      say "client_not_found" "Client Not Found"
        ("I could not find a client named " ++ slot "client_name" ++
          ". Please check that the name is correct.") ]

/-- The meetings with a client named in the message. -/
def meetingsByClient : Flow where
  id := "meetings_by_client"
  name := "Meetings With Client"
  description := "List the meetings with a client named in the message"
  trigger := ⟨.keyword,
    ["appuntamenti con", "incontri con", "meetings with", "appointments with"]⟩
  initialStep := "extract_client_name"
  steps :=
    [ extractName "get_meetings",
      ask "get_meetings" "Get Meetings" "get_meetings_by_client_name"
        [("client_name", .text (slot "client_name"))]
        ["client_name", "meetings", "count", "message", "summary"]
        "has_meetings" "client_not_found",
      check "has_meetings" "Has Meetings" ⟨"result.count", .greater, .int 0⟩
        "list_meetings" "no_meetings",
      say "list_meetings" "List Meetings" (slot "message" ++ "\n" ++ slot "summary"),
      say "no_meetings" "No Meetings" ("You have no meetings with " ++ slot "client_name" ++ "."),
      say "client_name_not_found" "Client Name Not Found"
        "Which client do you mean? Please give me the full name.",
      say "client_not_found" "Client Not Found"
        ("I could not find a client named " ++ slot "client_name" ++ ".") ]

/-- The steps of an agenda: the meetings of a range of dates, or a sentence
that there are none. -/
def agendaSteps (range none : String) : Table Step :=
  [ ask "get_meetings" "Get Meetings" "get_meetings_by_date_range"
      [("date_range", .text range)] ["meetings", "count", "message", "summary"]
      "has_meetings" "calendar_error",
    check "has_meetings" "Has Meetings" ⟨"variables.count", .greater, .int 0⟩
      "list_meetings" "no_meetings",
    say "list_meetings" "List Meetings" (slot "message" ++ "\n" ++ slot "summary"),
    say "no_meetings" "No Meetings" none,
    say "calendar_error" "Calendar Error"
      "I could not read your calendar right now. Please try again later." ]

/-- The meetings of today. -/
def agendaToday : Flow where
  id := "agenda_today"
  name := "Today's Agenda"
  description := "List today's meetings"
  trigger := ⟨.keyword,
    [ "appuntamenti oggi", "agenda di oggi", "agenda today", "meetings today",
      "today's meetings" ]⟩
  initialStep := "get_meetings"
  steps := agendaSteps "today" "You have no meetings today."

/-- The meetings of the next seven days. -/
def agendaWeek : Flow where
  id := "agenda_week"
  name := "This Week's Agenda"
  description := "List the meetings in the next 7 days"
  trigger := ⟨.keyword,
    [ "appuntamenti settimana", "agenda settimana", "meetings this week", "agenda this week",
      "next 7 days" ]⟩
  initialStep := "get_meetings"
  steps := agendaSteps "week" "Your calendar is free for the next 7 days."

/-- The latest headlines. -/
def financialNews : Flow where
  id := "financial_news"
  name := "Financial News"
  description := "Show the latest financial headlines"
  trigger := ⟨.keyword,
    ["notizie finanziarie", "notizie di mercato", "financial news", "market news"]⟩
  initialStep := "get_news"
  steps :=
    [ ask "get_news" "Get News" "get_financial_news" [("max_results", .int 5)]
        ["news", "count", "headlines"] "has_news" "news_unavailable",
      check "has_news" "Has News" ⟨"variables.count", .greater, .int 0⟩ "list_news" "no_news",
      say "list_news" "List News" ("Latest financial news:\n" ++ slot "headlines"),
      say "no_news" "No News" "There is no fresh financial news right now.",
      say "news_unavailable" "News Unavailable"
        "The news service is unavailable right now. Please try again in a moment." ]

/-- What the platform can do. -/
def siteHelp : Flow where
  id := "site_help"
  name := "Platform Help"
  description := "Explain what the platform and the assistant can do"
  trigger := ⟨.keyword,
    [ "come funziona", "guida", "documentazione", "how does it work", "documentation", "help" ]⟩
  initialStep := "get_documentation"
  steps :=
    [ ("get_documentation",
        ⟨"get_documentation", "Get Documentation", some "show_documentation",
          .operation "get_site_documentation" [] ["documentation"] none none⟩),
      say "show_documentation" "Show Documentation" (slot "documentation") ]

/-- The bundled flows, in the order in which their triggers are tried. -/
def flows : List Flow :=
  [clientLookup, meetingsByClient, agendaToday, agendaWeek, financialNews, siteHelp]

/-- The text of the bundled flow file. -/
def flowsText : String :=
  String.join (flows.map Flow.saved)

end FlowDesk.Bundled
