import PromptPress.Compiler.Basic
import PromptPress.Proofs.Workspace.Run

/-!
# The artifact of a document

Whatever a compiler does on its way, the artifact that it makes in the end is that of the plain text
with the placeholders that were listed for it.
-/

namespace PromptPress

namespace Job

theorem exec_extract_eq_ok {f : Text → Except Error (List Placeholder)} {s : Text}
    {ps : List Placeholder} {p q : Workspace} (h : (extract f s).exec p = (.ok ps, q)) :
    f s = .ok ps := by
  obtain ⟨ps', r, hx, h⟩ := exec_bind_eq_ok.1 h
  obtain ⟨hf, rfl⟩ := exec_ofExcept_eq_ok.1 hx
  obtain ⟨_, _, _, h⟩ := exec_bind_eq_ok.1 h
  rw [exec_pure] at h
  obtain rfl : ps' = ps := by simpa using congrArg Prod.fst h
  exact hf

theorem exec_generate_eq_ok {t : Target} {s : Text} {ps : List Placeholder} {a : Artifact}
    {p q : Workspace} (h : (generate t s ps).exec p = (.ok a, q)) : a = Artifact.ofText t s ps := by
  obtain ⟨_, _, _, h⟩ := exec_bind_eq_ok.1 h
  rw [exec_pure] at h
  simpa using (congrArg Prod.fst h).symm

end Job

namespace Compiler

/-- **The artifact of a document is that of a text and the placeholders listed for it.** -/
theorem exists_ofText_of_compileFor {c : Compiler} {t : Target} {source : Json}
    {o : Option PlainText.Options} {n : Option Text} {p q : Workspace} {a : Artifact}
    (h : (c.compileFor t source o n).exec p = (.ok a, q)) :
    ∃ s ps, c.extract s = .ok ps ∧ a = Artifact.ofText t s ps := by
  obtain ⟨s, _, _, h⟩ := Job.exec_bind_eq_ok.1 h
  obtain ⟨ps, _, hx, h⟩ := Job.exec_bind_eq_ok.1 h
  obtain ⟨_, _, _, h⟩ := Job.exec_bind_eq_ok.1 h
  obtain ⟨b, _, hg, h⟩ := Job.exec_bind_eq_ok.1 h
  obtain ⟨_, _, _, h⟩ := Job.exec_bind_eq_ok.1 h
  rw [Job.exec_pure] at h
  obtain rfl : b = a := by simpa using congrArg Prod.fst h
  exact ⟨s, ps, Job.exec_extract_eq_ok hx, Job.exec_generate_eq_ok hg⟩

/-- The compiler with the placeholders of a text listed as they are in new compilers. -/
def withOwnPlaceholders (c : Compiler) : Compiler :=
  { c with extract := fun s => .ok (Placeholder.ofText s) }

theorem ofText_of_compileFor {c : Compiler} {t : Target} {source : Json}
    {o : Option PlainText.Options} {n : Option Text} {p q : Workspace} {a : Artifact}
    (h : (c.withOwnPlaceholders.compileFor t source o n).exec p = (.ok a, q)) :
    ∃ s, a = Artifact.ofText t s (Placeholder.ofText s) := by
  obtain ⟨s, ps, hx, rfl⟩ := exists_ofText_of_compileFor h
  obtain rfl : Placeholder.ofText s = ps := by simpa [withOwnPlaceholders] using hx
  exact ⟨s, rfl⟩

end Compiler

end PromptPress
