import ProxyWatch.Document.Patch

/-! The baseline that patches are applied to. -/
namespace ProxyWatch

inductive PatchError where
  | noBaseline
  | rejected (rejection : Patch.Rejection)
  deriving DecidableEq, Repr

def PatchError.message : PatchError → String
  | noBaseline => "Patch received before any full snapshot"
  | rejected rejection => rejection.message

structure Reconciler where
  baseline : Option Json := none
  deriving Repr

namespace Reconciler

def reset (_ : Reconciler) (document : Json) : Reconciler := ⟨some document⟩

def clear (_ : Reconciler) : Reconciler := ⟨none⟩

/-- The document that a patch makes of the baseline. -/
def next (r : Reconciler) (patch : Patch) : Except PatchError Json :=
  match r.baseline with
  | none => .error .noBaseline
  | some document =>
    match patch.apply document with
    | .ok document => .ok document
    | .error rejection => .error (.rejected rejection)

/-- Applies a patch to the baseline, which stays as it is if the patch is rejected. -/
def apply (r : Reconciler) (patch : Patch) : Except PatchError Json × Reconciler :=
  match r.next patch with
  | .ok document => (.ok document, ⟨some document⟩)
  | .error error => (.error error, r)

end Reconciler
end ProxyWatch
