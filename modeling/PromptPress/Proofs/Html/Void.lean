import PromptPress.Html.Tree
import Mathlib.Tactic.SplitIfs

/-!
# Void elements

Void elements, line breaks and images among them, are closed as soon as they are opened
(`close_open'`).  So none of them is ever open while more of the page is read, and in the tree of a
page they hold nothing (`barrenAll_of_parse`).
-/

namespace PromptPress.Html

mutual

/-- Void elements in the node hold nothing. -/
def Node.Barren : Node → Prop
  | .text _ => True
  | .hidden => True
  | .element name _ children => (name ∈ voidElements → children = []) ∧ BarrenAll children

/-- Void elements in the nodes hold nothing. -/
def BarrenAll : List Node → Prop
  | [] => True
  | n :: ns => n.Barren ∧ BarrenAll ns

end

theorem barrenAll_iff {ns : List Node} : BarrenAll ns ↔ ∀ n ∈ ns, n.Barren := by
  induction ns with
  | nil => exact iff_of_true trivial fun n hn => absurd hn List.not_mem_nil
  | cons n ns ih => rw [BarrenAll, ih, List.forall_mem_cons]

/-- An open element may hold something, and void elements in it hold nothing. -/
structure Frame.Barren (f : Frame) : Prop where
  name : f.name ∉ voidElements
  children : ∀ n ∈ f.children, n.Barren

namespace Builder

variable {b : Builder}

/-- No void element is open, and those that were closed hold nothing. -/
structure Barren (b : Builder) : Prop where
  frames : ∀ f ∈ b.frames, f.Barren
  top : ∀ n ∈ b.top, n.Barren

theorem barren_add (hb : b.Barren) {n : Node} (hn : n.Barren) : (b.add n).Barren := by
  obtain ⟨frames, top, pending⟩ := b
  cases frames with
  | nil => exact ⟨hb.frames, List.forall_mem_cons.2 ⟨hn, hb.top⟩⟩
  | cons f fs =>
    obtain ⟨hf, hfs⟩ := List.forall_mem_cons.1 hb.frames
    refine ⟨List.forall_mem_cons.2 ⟨⟨hf.name, ?_⟩, hfs⟩, hb.top⟩
    exact List.forall_mem_cons.2 ⟨hn, hf.children⟩

theorem barren_flush (hb : b.Barren) : b.flush.Barren := by
  unfold flush
  split
  · exact hb
  · have hadd := fun t => barren_add hb (n := .text t) (by trivial)
    exact ⟨(hadd _).frames, (hadd _).top⟩

theorem barren_pop (hb : b.Barren) : b.pop.Barren := by
  obtain ⟨frames, top, pending⟩ := b
  cases frames with
  | nil => exact hb
  | cons f fs =>
    obtain ⟨hf, hfs⟩ := List.forall_mem_cons.1 hb.frames
    have hchildren : BarrenAll f.children.reverse :=
      barrenAll_iff.2 fun n hn => hf.children n (List.mem_reverse.1 hn)
    have helement : (Node.element f.name f.attributes f.children.reverse).Barren :=
      ⟨fun hvoid => absurd hvoid hf.name, hchildren⟩
    have hrest : Barren ⟨fs, top, pending⟩ := ⟨hfs, hb.top⟩
    exact barren_add hrest helement

theorem barren_popMany (n : Nat) (hb : b.Barren) : (popMany n b).Barren := by
  induction n generalizing b with
  | zero => exact hb
  | succ n ih => exact ih (barren_pop hb)

theorem barren_close (hb : b.Barren) (name : Text) : (b.close name).Barren := by
  unfold close
  dsimp only
  split
  · exact barren_popMany _ (barren_flush hb)
  · exact barren_flush hb

theorem pending_flush (b : Builder) : b.flush.pending = [] := by
  unfold flush
  split
  · exact List.isEmpty_iff.1 ‹_›
  · rfl

/-- **An element that is closed at once holds nothing.** -/
theorem close_open' (b : Builder) (name : Text) (as : Attributes) :
    (b.open' name as).close name = b.flush.add (.element name as []) := by
  have hflush : (b.open' name as).flush = b.open' name as := by
    unfold flush
    exact if_pos (by simp [open', pending_flush])
  have hfound : (b.open' name as).frames.findIdx? (fun f => f.name == name) = some 0 := by
    simp [open', List.findIdx?_cons]
  unfold close
  rw [hflush]
  dsimp only
  rw [hfound]
  rfl

theorem barren_step (hb : b.Barren) (t : Token) : (b.step t).Barren := by
  have hflush := barren_flush hb
  cases t with
  | text t => exact ⟨hb.frames, hb.top⟩
  | closing name => exact barren_close hb name
  | hidden => exact barren_add hflush (by trivial)
  | opening name as selfClosing =>
    show (if selfClosing || voidElements.contains name then (b.open' name as).close name
      else b.open' name as).Barren
    split_ifs with hclosed
    · have hempty : (Node.element name as []).Barren := ⟨fun _ => rfl, by trivial⟩
      rw [close_open']
      exact barren_add hflush hempty
    · have hname : name ∉ voidElements := by
        intro hvoid
        simp [hvoid] at hclosed
      have hopen : (Frame.mk name as []).Barren := ⟨hname, by simp⟩
      exact ⟨List.forall_mem_cons.2 ⟨hopen, hflush.frames⟩, hflush.top⟩

theorem barren_foldl_step (hb : b.Barren) (ts : List Token) : (ts.foldl step b).Barren := by
  induction ts generalizing b with
  | nil => exact hb
  | cons t ts ih => exact ih (barren_step hb t)

end Builder

/-- **Void elements of a page hold nothing.** -/
theorem barrenAll_of_parse {s : Text} {ns : List Node} (h : parse s = .ok ns) : BarrenAll ns := by
  obtain ⟨ts, -, rfl⟩ : ∃ ts, tokens s = .ok ts ∧ build ts = ns := by
    unfold parse at h
    cases htokens : tokens s with
    | error e => simp [htokens, Except.map] at h
    | ok ts => exact ⟨ts, rfl, by simpa [htokens, Except.map] using h⟩
  have hstart : Builder.Barren {} := ⟨by simp, by simp⟩
  have hend := Builder.barren_foldl_step hstart ts
  refine barrenAll_iff.2 fun n hn => ?_
  exact (Builder.barren_popMany _ (Builder.barren_flush hend)).top n (List.mem_reverse.1 hn)

end PromptPress.Html
