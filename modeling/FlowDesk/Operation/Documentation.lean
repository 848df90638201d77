/-
# Help

A fixed text that explains what the platform offers.
-/

import FlowDesk.Operation.Basic
import FlowDesk.Operation.Parameter

namespace FlowDesk

/-- The help text of the platform. -/
def siteDocumentation : String :=
  "Advisor platform overview\n\n" ++
  "Clients\n" ++
  "  - The client list shows every client in your book; archived clients are hidden by default.\n" ++
  "  - Open a client to see profile, risk profile, assets and notes.\n" ++
  "  - New clients receive an onboarding email; a client is \x22onboarded\x22 once it is " ++
  "completed.\n\n" ++
  "Meetings\n" ++
  "  - The calendar shows your meetings by day, week and month.\n" ++
  "  - New meetings and changes are always confirmed in a dialog before they are saved.\n" ++
  "  - Invitations are emailed to the client when a meeting is confirmed.\n\n" ++
  "Assistant\n" ++
  "  - Ask for a client's profile (\x22client details for Mario Rossi\x22).\n" ++
  "  - Ask for your agenda (\x22meetings today\x22, \x22meetings this week\x22).\n" ++
  "  - Ask for the latest market news (\x22financial news\x22).\n"

namespace Operation

variable {σ : Type}

/-- Take no arguments: any object will do. -/
def readNothing (v : Value) : Checked Unit :=
  match v with
  | .object _ => .valid ()
  | v => .mismatch (.notRecord "NoArgs") v

/-- Return the help text. -/
def getSiteDocumentation : Operation σ where
  name := "get_site_documentation"
  description := "Return documentation describing the advisor platform's features."
  parameters := Parameter.noParameters
  prepare v := (readNothing v).map fun _ _ state =>
    (.now (.success [("documentation", .text siteDocumentation)]), state)

end Operation

end FlowDesk
