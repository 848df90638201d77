/-
# The standard operations

The nine operations of a desk, over a book, a region with a clock, and a news
service.
-/

import FlowDesk.Operation.Clients
import FlowDesk.Operation.Documentation
import FlowDesk.Operation.Meetings
import FlowDesk.Operation.News

namespace FlowDesk

/-- What the standard operations work on. -/
structure Surroundings (σ : Type) where
  book : Book
  region : Calendar.Region
  clock : Calendar.Moment
  newsAddress : String
  fetch : News.Fetcher σ

namespace Surroundings

variable {σ : Type}

/-- The standard operations, in the order in which they are described. -/
def operationList (around : Surroundings σ) : List (Operation σ) :=
  [ .extractClientName around.book,
    .getClientContext around.book,
    .searchClients around.book,
    .getSiteDocumentation,
    .getFinancialNews around.newsAddress around.fetch,
    .getMeetingsByDateRange around.book around.region around.clock,
    .getMeetingsByClientName around.book around.region,
    .prepareMeetingData around.book around.region,
    .prepareEditMeeting around.book around.region ]

/-- The table of the standard operations. -/
def operations (around : Surroundings σ) : Operations σ where
  all := around.operationList
  distinct := by
    simp [operationList, Operation.extractClientName, Operation.getClientContext,
      Operation.searchClients, Operation.getSiteDocumentation, Operation.getFinancialNews,
      Operation.getMeetingsByDateRange, Operation.getMeetingsByClientName,
      Operation.prepareMeetingData, Operation.prepareEditMeeting]

end Surroundings

end FlowDesk
