import PromptPress.Html.Blocks
import Mathlib.Tactic.SplitIfs

/-!
# Visible texts

The visible text between two borders is put together from texts of the page: those of its text
nodes, line breaks, and alternative texts of images.  `visible` keeps them apart, so that it can be
said where in a page a part of the visible text stands; `pieces` is what they are laid end to end
(`pieces_eq`).

Changing the texts of a page changes its visible texts, and nothing else of what is visible
(`visible_mapText`).
-/

namespace PromptPress.Html

/-! ### Stretches between borders -/

/-- Puts a text in front of the first stretch. -/
def prependText (t : Text) : List (List Text) → List (List Text)
  | [] => [[t]]
  | ts :: tss => (t :: ts) :: tss

/-- The texts between borders. -/
def stretches : List Flow → List (List Text)
  | [] => [[]]
  | .text t :: fs => prependText t (stretches fs)
  | .border :: fs => [] :: stretches fs

/-- The visible texts of a page, stretch by stretch. -/
def visible (ns : List Node) : List (List Text) := stretches (flowAll ns)

theorem pieces_text (t : Text) (fs : List Flow) :
    pieces (.text t :: fs) = (t ++ (pieces fs).head (List.cons_ne_nil _ _)) :: (pieces fs).tail :=
  rfl

@[simp] theorem pieces_border (fs : List Flow) : pieces (.border :: fs) = [] :: pieces fs := rfl

/-- **The pieces of visible text are its texts laid end to end**, stretch by stretch. -/
theorem pieces_eq (fs : List Flow) : pieces fs = (stretches fs).map List.flatten := by
  induction fs with
  | nil => rfl
  | cons f fs ih =>
    cases f with
    | border => rw [pieces_border, stretches, ih, List.map_cons, List.flatten_nil]
    | text t =>
      rw [pieces_text, stretches]
      cases hs : stretches fs with
      | nil => simp [hs, pieces] at ih
      | cons ts tss => simp [prependText, ih, hs]

/-! ### Changing texts -/

/-- A part of what is visible with its text changed. -/
def Flow.mapText (f : Text → Text) : Flow → Flow
  | .text t => .text (f t)
  | .border => .border

theorem stretches_mapText (f : Text → Text) (fs : List Flow) :
    stretches (fs.map (Flow.mapText f)) = (stretches fs).map (List.map f) := by
  induction fs with
  | nil => rfl
  | cons g fs ih =>
    cases g with
    | border =>
      rw [List.map_cons, Flow.mapText, stretches, ih]
      rfl
    | text t =>
      rw [List.map_cons, Flow.mapText, stretches, stretches, ih]
      cases stretches fs with
      | nil => rfl
      | cons ts tss => rfl

/-- The attributes with the alternative text changed. -/
def Attributes.mapAlt (f : Text → Text) (as : Attributes) : Attributes :=
  as.map fun (n, v) => (n, if n == ("alt" : Text) then f v else v)

mutual

/-- The node with its texts, and the alternative texts of images in it, changed. -/
def Node.mapText (f : Text → Text) : Node → Node
  | .text t => .text (f t)
  | .hidden => .hidden
  | .element name as children =>
    .element name (if name == ("img" : Text) then as.mapAlt f else as) (mapTextAll f children)

/-- The nodes with their texts changed. -/
def mapTextAll (f : Text → Text) : List Node → List Node
  | [] => []
  | n :: ns => n.mapText f :: mapTextAll f ns

end

theorem altText_mapAlt {f : Text → Text} (hf : f [] = []) (as : Attributes) :
    altText (as.mapAlt f) = f (altText as) := by
  have hfind : ∀ as : Attributes,
      ((as.mapAlt f).find? fun (n, _) => n == ("alt" : Text)).map Prod.snd =
        ((as.find? fun (n, _) => n == ("alt" : Text)).map Prod.snd).map f := by
    intro as
    induction as with
    | nil => rfl
    | cons a as ih =>
      obtain ⟨n, v⟩ := a
      rw [Attributes.mapAlt, List.map_cons, List.find?_cons, List.find?_cons]
      dsimp only
      cases n == ("alt" : Text) with
      | true => rfl
      | false => exact ih
  have hget : (as.mapAlt f).get? "alt" = (as.get? "alt").map f := by
    unfold Attributes.get?
    rw [Attributes.mapAlt, ← List.map_reverse]
    exact hfind as.reverse
  unfold altText
  rw [hget]
  cases as.get? "alt" with
  | none => exact hf.symm
  | some v => rfl

mutual

theorem Node.flow_mapText {f : Text → Text} (hf : f [] = []) (hbr : f ['\n'] = ['\n']) (n : Node) :
    (n.mapText f).flow = n.flow.map (Flow.mapText f) := by
  cases n with
  | text t => rfl
  | hidden => rfl
  | element name as children =>
    have hchildren := flowAll_mapTextAll hf hbr children
    rw [Node.mapText, Node.flow, Node.flow]
    split_ifs with h₁ h₂ h₃ h₄
    · rfl
    · rw [List.map_singleton, Flow.mapText, hbr]
    · rw [List.map_singleton, Flow.mapText, altText_mapAlt hf]
    · rw [hchildren, List.map_append, List.map_cons]
      rfl
    · exact hchildren

theorem flowAll_mapTextAll {f : Text → Text} (hf : f [] = []) (hbr : f ['\n'] = ['\n'])
    (ns : List Node) : flowAll (mapTextAll f ns) = (flowAll ns).map (Flow.mapText f) := by
  cases ns with
  | nil => rfl
  | cons n ns =>
    rw [mapTextAll, flowAll, flowAll, List.map_append, Node.flow_mapText hf hbr n,
      flowAll_mapTextAll hf hbr ns]

end

/-- **Changing the texts of a page changes its visible texts.** -/
theorem visible_mapText {f : Text → Text} (hf : f [] = []) (hbr : f ['\n'] = ['\n'])
    (ns : List Node) : visible (mapTextAll f ns) = (visible ns).map (List.map f) := by
  rw [visible, flowAll_mapTextAll hf hbr, stretches_mapText, visible]

theorem pieces_flowAll (ns : List Node) : pieces (flowAll ns) = (visible ns).map List.flatten :=
  pieces_eq (flowAll ns)

end PromptPress.Html
