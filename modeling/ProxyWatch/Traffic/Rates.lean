import ProxyWatch.Traffic.Sample

/-! Transfer rates: what the counters gained from one document to the next. -/
namespace ProxyWatch

structure Rate where
  upload : Nat
  download : Nat
  deriving DecidableEq, Repr

namespace Rate

def zero : Rate := ⟨0, 0⟩

/-- Counters that went back gained nothing. -/
def between (previous current : Sample) : Rate :=
  ⟨current.upload - previous.upload, current.download - previous.download⟩

/-- The rate since a sample, and zero without one. -/
def since (previous : Option Sample) (current : Sample) : Rate :=
  match previous with
  | none => zero
  | some previous => between previous current

def addSaturating (x y : Rate) : Rate :=
  ⟨min (x.upload + y.upload) Json.counterLimit, min (x.download + y.download) Json.counterLimit⟩

end Rate

structure RateSheet where
  connections : Dictionary Rate := []
  total : Option Rate := none
  deriving DecidableEq, Repr

namespace RateSheet

def get? (sheet : RateSheet) (id : String) : Option Rate := sheet.connections.get? id

/-- The sum of all connections, held at the largest counter. -/
def sum (sheet : RateSheet) : Rate :=
  sheet.connections.foldl (fun total (_, rate) => total.addSaturating rate) Rate.zero

end RateSheet

/-- The samples of a document by connection. The document's own counters are kept under the empty
name. -/
abbrev SampleTable := Dictionary Sample

namespace SampleTable

def totalsKey : String := ""

/-- The connection records of a document. -/
def records (document : Json) : Json.Members :=
  ((document.member? "connections").bind Json.members?).getD []

/-- The samples of a document. -/
def ofDocument (document : Json) : SampleTable :=
  let table := (records document).foldl
    (fun table (id, record) => Dictionary.insert table id (Sample.ofRecord record)) []
  match Sample.totals document with
  | none => table
  | some totals => Dictionary.insert table totalsKey totals

/-- The rates of a document against earlier samples. -/
def sheet (previous : SampleTable) (document : Json) : RateSheet where
  connections := (records document).foldl
    (fun rates (id, record) =>
      Dictionary.insert rates id (Rate.since (Dictionary.get? previous id) (Sample.ofRecord record))) []
  total := (Sample.totals document).map (Rate.since (Dictionary.get? previous totalsKey))

end SampleTable

structure RateTracker where
  samples : SampleTable := []
  deriving Repr

namespace RateTracker

/-- The rates since the last document, whose samples make way for the new ones. -/
def update (tracker : RateTracker) (document : Json) : RateSheet × RateTracker :=
  (tracker.samples.sheet document, ⟨.ofDocument document⟩)

def reset (_ : RateTracker) : RateTracker := ⟨[]⟩

end RateTracker
end ProxyWatch
