/-!
# Lifecycles of documents

The statuses of a document and the lifecycles that say which status can follow which.  In the standard lifecycle a
document goes from draft by review and approval to the signature and into the archive; before the signature it can go
back one stage.
-/

namespace Formulary

/-- The status of a document. -/
inductive Status where
  | draft
  | review
  | approved
  | signed
  | archived
deriving DecidableEq

namespace Status

/-- The statuses in the order of the lifecycle. -/
def all : List Status := [draft, review, approved, signed, archived]

def name : Status → String
  | draft => "draft"
  | review => "review"
  | approved => "approved"
  | signed => "signed"
  | archived => "archived"

/-- The French name for display. -/
def label : Status → String
  | draft => "brouillon"
  | review => "en revue"
  | approved => "approuvé"
  | signed => "signé"
  | archived => "archivé"

/-- The status with a given name. -/
def ofName? (name : String) : Option Status := all.find? (fun s => s.name = name)

/-- What is told of a name that no status has. -/
def unknownMessage (name : String) : String := "Unknown document status: " ++ name

theorem mem_all (s : Status) : s ∈ all := by cases s <;> decide

theorem ofName?_name (s : Status) : ofName? s.name = some s := by cases s <;> decide

end Status

/-- For some statuses the statuses that can follow; of two rows for one status the first counts. -/
structure Lifecycle where
  rows : List (Status × List Status)
deriving DecidableEq

namespace Lifecycle

/-- The standard lifecycle. -/
def standard : Lifecycle where
  rows := [
    (.draft, [.review]),
    (.review, [.draft, .approved]),
    (.approved, [.review, .signed]),
    (.signed, [.archived]),
    (.archived, [])]

/-- The statuses that can follow a status; one without a row has none. -/
def successors (l : Lifecycle) (s : Status) : List Status := (l.rows.lookup s).getD []

def permits (l : Lifecycle) (source target : Status) : Bool := target ∈ l.successors source

/-- Whether no status can follow. -/
def isFinal (l : Lifecycle) (s : Status) : Bool := (l.successors s).isEmpty

end Lifecycle

end Formulary
