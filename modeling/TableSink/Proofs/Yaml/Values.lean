/-
The values of the parts of a document.

A part is revealed as what it is (`Part.Shows`): what is no collection as itself, and a
collection as a value of its kind, which also holds of the values that are kept on the
way (`Heap.Fits`). So a key that is a text was a text before, and since no key stands
twice in a mapping, no text stands there twice as a key (`eq_of_text_key_reader`).
-/
import Mathlib.Data.List.Forall2
import TableSink.Proofs.Yaml.Keys
import TableSink.Yaml.Document

namespace TableSink.Yaml

/-- What a part is revealed as. -/
def Part.Shows (h : Heap) : Part → Value → Prop
  | .atom v, w => w = v
  | .nan _, w => w = .float Number.notANumber
  | .tuple _, w => ∃ items, w = .tuple items
  | .cell id, w => w.kindName = (h.cell id).shape.name

/-- A text is revealed of nothing else than the text. -/
theorem Part.eq_of_shows_text {h : Heap} {p : Part} {s : Text} (hp : p.Shows h (.text s)) :
    p = .atom (.text s) := by
  cases p with
  | atom v => exact congrArg Part.atom (Eq.symm hp)
  | nan n => cases hp
  | tuple items =>
    obtain ⟨_, hitems⟩ := hp
    cases hitems
  | cell id =>
    have hkind : "str" = (h.cell id).shape.name := hp
    cases hshape : (h.cell id).shape <;> rw [hshape] at hkind <;> simp [Shape.name] at hkind

namespace Heap

/-! ## Steps of revealing -/

/-- The values that are kept are of the kinds of their cells. -/
def Fits (h : Heap) (known : Array (Option Value)) : Prop :=
  ∀ (id : CellId) v, known[id]?.join = some v → v.kindName = (h.cell id).shape.name

/-- The step keeps values that fit, and its answer is as said. -/
def Reveals (h : Heap) {α : Type} (x : Reveal α) (Q : α → Prop) : Prop :=
  ∀ known, h.Fits known → h.Fits (x.run known).2 ∧ Q (x.run known).1

section

variable {h : Heap} {α β : Type} {P : α → Prop} {Q : β → Prop}

theorem reveals_pure {a : α} (ha : P a) : h.Reveals (pure a) P :=
  fun _ hknown => ⟨hknown, ha⟩

theorem reveals_bind {x : Reveal α} {f : α → Reveal β} (hx : h.Reveals x P)
    (hf : ∀ a, P a → h.Reveals (f a) Q) : h.Reveals (x >>= f) Q := by
  intro known hknown
  obtain ⟨hknown', ha⟩ := hx known hknown
  exact hf _ ha _ hknown'

theorem reveals_get : h.Reveals get h.Fits :=
  fun _ hknown => ⟨hknown, hknown⟩

theorem reveals_modify {f : Array (Option Value) → Array (Option Value)}
    (hf : ∀ known, h.Fits known → h.Fits (f known)) :
    h.Reveals (modify f) fun _ => True :=
  fun known hknown => ⟨hf known hknown, True.intro⟩

theorem reveals_mapM {f : α → Reveal β} {R : α → β → Prop} (hf : ∀ a, h.Reveals (f a) (R a))
    (l : List α) : h.Reveals (l.mapM f) (List.Forall₂ R l) := by
  induction l with
  | nil => exact reveals_pure .nil
  | cons a l ih =>
    rw [List.mapM_cons]
    exact reveals_bind (hf a) fun b hb => reveals_bind ih fun bs hbs => reveals_pure (.cons hb hbs)

end

/-! ## Values -/

section

variable {h : Heap} {ofCell : CellId → Reveal Revealed}

mutual

theorem reveals_ofPart
    (hcell : ∀ id, h.Reveals (ofCell id) fun r => r.value.kindName = (h.cell id).shape.name) :
    ∀ p : Part, h.Reveals (ofPart ofCell p) fun r => p.Shows h r.value
  | .atom _ => reveals_pure rfl
  | .nan _ => reveals_pure rfl
  | .cell id => hcell id
  | .tuple items => by
    rw [ofPart]
    exact reveals_bind (reveals_ofParts hcell items) fun vs _ => reveals_pure ⟨vs.1, rfl⟩

theorem reveals_ofParts
    (hcell : ∀ id, h.Reveals (ofCell id) fun r => r.value.kindName = (h.cell id).shape.name) :
    ∀ ps : List Part, h.Reveals (ofParts ofCell ps) fun _ => True
  | [] => reveals_pure True.intro
  | p :: ps => by
    rw [ofParts]
    exact reveals_bind (reveals_ofPart hcell p) fun _ _ =>
      reveals_bind (reveals_ofParts hcell ps) fun _ _ => reveals_pure True.intro

end

variable (hcell : ∀ id, h.Reveals (ofCell id) fun r => r.value.kindName = (h.cell id).shape.name)

include hcell

theorem reveals_ofRows (rows : List (Part × Part)) :
    h.Reveals (ofRows ofCell rows) fun _ => True :=
  reveals_bind (reveals_ofParts hcell _) fun _ _ =>
    reveals_bind (reveals_ofParts hcell _) fun _ _ => reveals_pure True.intro

theorem reveals_ofContent (c : Cell) :
    h.Reveals (ofContent ofCell c) fun r => r.value.kindName = c.shape.name := by
  cases c with
  | list items => exact reveals_bind (reveals_ofParts hcell items) fun _ _ => reveals_pure rfl
  | map rows => exact reveals_bind (reveals_ofRows hcell rows) fun _ _ => reveals_pure rfl
  | orderedMap rows => exact reveals_bind (reveals_ofRows hcell rows) fun _ _ => reveals_pure rfl
  | set members => exact reveals_bind (reveals_ofParts hcell members) fun _ _ => reveals_pure rfl

end

theorem fits_replicate (h : Heap) (size : Nat) : h.Fits (Array.replicate size none) := by
  intro id v hv
  rw [Array.getElem?_replicate] at hv
  split at hv <;> cases hv

theorem fits_setIfInBounds {h : Heap} {known : Array (Option Value)} (hknown : h.Fits known)
    {id : CellId} {v : Value} (hv : v.kindName = (h.cell id).shape.name) :
    h.Fits (known.setIfInBounds id (some v)) := by
  intro id' w hw
  rw [Array.getElem?_setIfInBounds] at hw
  split at hw
  next heq =>
    subst heq
    split at hw
    · cases hw
      exact hv
    · cases hw
  · exact hknown id' w hw

theorem reveals_revealCell (h : Heap) (fuel : Nat) (around : List CellId) (id : CellId) :
    h.Reveals (revealCell h fuel around id)
      fun r => r.value.kindName = (h.cell id).shape.name := by
  induction fuel generalizing around id with
  | zero => exact reveals_pure rfl
  | succ fuel ih =>
    rw [revealCell]
    refine reveals_bind reveals_get fun known hknown => ?_
    split
    next v hv => exact reveals_pure (hknown id v hv)
    · split
      · exact reveals_pure rfl
      · refine reveals_bind (reveals_ofContent (ih _) _) fun r hr => ?_
        split
        · exact reveals_bind (reveals_modify fun known hknown => fits_setIfInBounds hknown hr)
            fun _ _ => reveals_pure hr
        · exact reveals_pure hr

/-- Each part is revealed as what it is. -/
theorem shows_reveal (h : Heap) (parts : List Part) :
    List.Forall₂ (Part.Shows h) parts (h.reveal parts) := by
  have hsteps := reveals_mapM
    (fun p => reveals_ofPart (reveals_revealCell h (h.cells.size + 1) []) p) parts
  have hshown := (hsteps _ (fits_replicate h h.cells.size)).2
  exact List.forall₂_map_right_iff.mpr hshown

end Heap

/-! ## Rows -/

/-- Where keys are apart, a text is revealed of one of them at most. -/
theorem eq_of_text_mem_zip {h : Heap} {keys : List Part} {shown values : List Value}
    (hapart : keys.Pairwise fun earlier later => (later == earlier) = false)
    (hshown : List.Forall₂ (Part.Shows h) keys shown) {s : Text} {v w : Value}
    (hv : (.text s, v) ∈ shown.zip values) (hw : (.text s, w) ∈ shown.zip values) : v = w := by
  induction hshown generalizing values with
  | nil => cases hv
  | @cons p u keys shown hp hshown ih =>
    cases values with
    | nil => cases hv
    | cons x values =>
      obtain ⟨hfirst, hapart⟩ := List.pairwise_cons.mp hapart
      have hsame : (Part.atom (.text s) == .atom (.text s)) = true := by
        show (s == s) = true
        exact beq_self_eq_true s
      have hother (hu : u = .text s) (y : Value) : (.text s, y) ∉ shown.zip values := by
        intro hy
        obtain ⟨i, hi, hget⟩ := List.getElem_of_mem (List.of_mem_zip hy).1
        have hi' : i < keys.length := hshown.length_eq ▸ hi
        have hlater := hshown.get hi' hi
        rw [List.get_eq_getElem, List.get_eq_getElem, hget] at hlater
        have hne := hfirst _ (List.getElem_mem hi')
        subst hu
        rw [Part.eq_of_shows_text hp, Part.eq_of_shows_text hlater, hsame] at hne
        cases hne
      rw [List.zip_cons_cons, List.mem_cons] at hv hw
      rcases hv with hv | hv <;> rcases hw with hw | hw
      · exact (congrArg Prod.snd hv).trans (congrArg Prod.snd hw).symm
      · exact absurd hw (hother (congrArg Prod.fst hv).symm w)
      · exact absurd hv (hother (congrArg Prod.fst hw).symm v)
      · exact ih hapart hv hw

/-- A text does not stand twice as a key in the outermost mapping of a document. -/
theorem Meaning.eq_of_text_key {d : Graph.Document} {m : Meaning} (hd : ofDocument d = .ok m)
    {rows : List (Value × Value)} (hrows : m.rows? = some rows) {s : Text} {v w : Value}
    (hv : (.text s, v) ∈ rows) (hw : (.text s, w) ∈ rows) : v = w := by
  unfold rows? at hrows
  split at hrows
  next id _ =>
    have hapart := Heap.apart_cell (apart_ofDocument hd) id
    split at hrows
    next hcell =>
      cases hrows
      rw [hcell] at hapart
      exact eq_of_text_mem_zip hapart (Heap.shows_reveal _ _) hv hw
    next hcell =>
      cases hrows
      rw [hcell] at hapart
      exact eq_of_text_mem_zip hapart (Heap.shows_reveal _ _) hv hw
    · cases hrows
  · cases hrows

/-- The reader gives no document in whose rows a text stands twice as a key. -/
theorem eq_of_text_key_reader {bytes : List UInt8} {d : Document} (h : reader bytes = .ok d)
    {s : Text} {v w : Value} (hv : (.text s, v) ∈ d.rows) (hw : (.text s, w) ∈ d.rows) : v = w := by
  unfold reader at h
  split at h
  · cases h
  · cases h
    cases hv
  next m hread =>
    cases h
    obtain ⟨document?, -, hmeaning⟩ := Except.bind_eq_ok_iff.mp hread
    cases document? with
    | none => cases hmeaning
    | some document =>
      obtain ⟨m', hm', hsome⟩ := Except.bind_eq_ok_iff.mp hmeaning
      cases hsome
      rw [Meaning.document] at hv hw
      cases hrows : m.rows? with
      | none =>
        rw [hrows] at hv
        cases hv
      | some rows =>
        rw [hrows] at hv hw
        exact Meaning.eq_of_text_key hm' hrows hv hw

end TableSink.Yaml
