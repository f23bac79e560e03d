import Orchestration.Decode.Scalar
import Orchestration.Json.Reader
import Orchestration.Rejection

namespace Orchestration

structure Journey where
  id : String
  name : String
  steps : Int
  estimatedDays : Int
  deriving DecidableEq, Repr

namespace Journey

def decode (source : Source) (v : Json) : Decode Journey :=
  Decode.record source v fun m =>
    Journey.mk <$> Decode.required m (.same "id") Decode.text
      <*> Decode.required m (.same "name") Decode.text
      <*> Decode.field m (.same "steps") (pure 0) Decode.integer
      <*> Decode.field m ⟨"estimatedDays", "estimated_days"⟩ (pure 0) Decode.integer

def encode (j : Journey) : Json :=
  .obj [("id", .str j.id), ("name", .str j.name), ("steps", .int j.steps),
    ("estimatedDays", .int j.estimatedDays)]

end Journey

structure Catalog where
  journeys : List Journey
  deriving DecidableEq, Repr

namespace Catalog

def title : String := "ReferenceCatalog"

def decodeJourneys (source : Source) : Json → Decode (List Journey)
  | .arr vs => Decode.items (Journey.decode source) 0 vs
  | _ => Decode.complain .notSequence

def decode (source : Source) (v : Json) : Decode Catalog :=
  Decode.record source v fun m =>
    Catalog.mk <$> Decode.field m (.same "journeys") (pure []) (decodeJourneys source)

def encode (c : Catalog) : Json := .obj [("journeys", .arr (c.journeys.map Journey.encode))]

def has (c : Catalog) (id : String) : Bool := c.journeys.any (·.id == id)

-- The catalog that is there without a file.
def standard : Catalog :=
  ⟨[⟨"pre-clt", "CLT Pre-boarding", 12, 5⟩, ⟨"pre-pj", "PJ Pre-boarding", 8, 3⟩,
    ⟨"pre-intern", "Intern Pre-boarding", 6, 2⟩, ⟨"onb-org", "Organizational Onboarding", 15, 7⟩,
    ⟨"onb-tech", "Technology Onboarding", 20, 14⟩, ⟨"onb-sales", "Sales Onboarding", 18, 10⟩,
    ⟨"onb-cs", "CS Onboarding", 15, 8⟩]⟩

inductive LoadFault where
  | unreadable (fault : Json.ReadFault)
  | rejected (r : Rejection)
  deriving Repr

def load (text : String) (s : Supply) : Except LoadFault Catalog :=
  match Json.parse text with
  | .error fault => .error (.unreadable fault)
  | .ok document =>
      let wrapped := match document with
        | .arr _ => .obj [("journeys", document)]
        | _ => document
      match Decode.load title (decode .document wrapped) s with
      | .ok (catalog, _) => .ok catalog
      | .error r => .error (.rejected r)

end Catalog
end Orchestration
