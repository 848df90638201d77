/-
# The bundled seed

Sample books for two advisors: five clients and five meetings in March 2026.
-/

import FlowDesk.Json.Writer

namespace FlowDesk.Bundled

/-- An asset of a sample client. -/
def asset (category : String) (value : Int) : Value :=
  .object [("category", .text category), ("value", .int value)]

/-- The sample clients. -/
def clients : List Value :=
  [ .object
      [ ("id", .int 1), ("advisor_id", .int 1),
        ("first_name", .text "Mario"), ("last_name", .text "Rossi"),
        ("email", .text "mario.rossi@example.com"), ("phone", .text "+39 333 1234567"),
        ("is_onboarded", .bool true), ("risk_profile", .text "balanced"),
        ("notes", .text "Prefers morning meetings."),
        ("assets", .list [asset "equity" 120000, asset "bonds" 80000, asset "cash" 15000]) ],
    .object
      [ ("id", .int 2), ("advisor_id", .int 1),
        ("first_name", .text "Giulia"), ("last_name", .text "Bianchi"),
        ("email", .text "giulia.bianchi@example.com"), ("phone", .text "+39 347 7654321"),
        ("is_onboarded", .bool false), ("risk_profile", .text ""),
        ("notes", .text "Onboarding email sent.") ],
    .object
      [ ("id", .int 3), ("advisor_id", .int 1),
        ("first_name", .text "Anna"), ("last_name", .text "De Luca"),
        ("email", .text "anna.deluca@example.com"), ("phone", .text "+39 320 5550101"),
        ("is_onboarded", .bool true), ("risk_profile", .text "conservative"),
        ("assets", .list [asset "bonds" 250000]) ],
    .object
      [ ("id", .int 4), ("advisor_id", .int 1),
        ("first_name", .text "Paolo"), ("last_name", .text "Verdi"),
        ("email", .text "paolo.verdi@example.com"), ("is_archived", .bool true),
        ("is_onboarded", .bool true), ("risk_profile", .text "aggressive") ],
    .object
      [ ("id", .int 5), ("advisor_id", .int 2),
        ("first_name", .text "Ada"), ("last_name", .text "Lovelace"),
        ("email", .text "ada@example.com"), ("is_onboarded", .bool true),
        ("risk_profile", .text "dynamic"),
        ("assets", .list [asset "equity" 500000]) ] ]

/-- The sample meetings. -/
def meetings : List Value :=
  [ .object
      [ ("id", .int 101), ("advisor_id", .int 1), ("client_id", .int 1),
        ("subject", .text "Quarterly portfolio review"),
        ("date_time", .text "2026-03-10T10:00:00+01:00"), ("duration", .int 60),
        ("location", .text "Office") ],
    .object
      [ ("id", .int 102), ("advisor_id", .int 1), ("client_id", .int 2),
        ("subject", .text "Onboarding call"),
        ("date_time", .text "2026-03-10T15:30:00+01:00"), ("duration", .int 30),
        ("location", .text "Phone") ],
    .object
      [ ("id", .int 103), ("advisor_id", .int 1), ("client_id", .int 1),
        ("subject", .text "Pension plan follow-up"),
        ("date_time", .text "2026-03-17T09:00:00+01:00"), ("duration", .int 45),
        ("location", .text "Video call"),
        ("notes", .text "Bring the pension fund comparison.") ],
    .object
      [ ("id", .int 104), ("advisor_id", .int 1), ("subject", .text "Team meeting"),
        ("date_time", .text "2026-03-12T12:00:00+01:00"), ("duration", .int 60),
        ("location", .text "Office") ],
    .object
      [ ("id", .int 201), ("advisor_id", .int 2), ("client_id", .int 5),
        ("subject", .text "Annual review"),
        ("date_time", .text "2026-03-10T11:00:00+01:00"), ("duration", .int 60) ] ]

/-- The sample seed. -/
def seed : Value :=
  .object [("clients", .list clients), ("meetings", .list meetings)]

/-- The text of the bundled seed file. -/
def seedText : String := Json.indentedText seed ++ "\n"

end FlowDesk.Bundled
