import ProxyWatch.Json.Record

/-! Traffic counters sampled from a document. -/
namespace ProxyWatch
open Json (Source)

structure Sample where
  upload : Nat
  download : Nat
  deriving DecidableEq, Repr

namespace Sample

/-- A counter of 64 bits. Doubles are cut to a whole number in range; all else counts nothing. -/
def counter : Json → Nat
  | .number (.integer n) => n.toNat
  | .number (.double x) => if x.negative then 0 else min x.truncated Json.counterLimit
  | _ => 0

def counterOf (member : Option Json) : Nat := (member.map counter).getD 0

/-- The counters of one connection's record. -/
def ofRecord (record : Json) : Sample :=
  ⟨counterOf (record.member? "upload"), counterOf (record.member? "download")⟩

/-- The counters of a whole document, if it has any. -/
def totals (document : Json) : Option Sample :=
  let upload := document.member? "total_upload"
  let download := document.member? "total_download"
  if upload.isNone && download.isNone then none
  else some ⟨counterOf upload, counterOf download⟩

def members : List String := ["upload", "download"]

def ofSource? (tree : Source) : Option Sample := do
  let [upload, download] ← tree.slots? members | none
  pure ⟨← (← upload).counter?, ← (← download).counter?⟩

def toJson (sample : Sample) : Json :=
  .object [("upload", .ofNat sample.upload), ("download", .ofNat sample.download)]

end Sample
end ProxyWatch
