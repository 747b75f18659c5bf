/-
The keys of the mappings in a document.

A row is put where its key is the same as one that is there already, or else at the
end. So the keys of a mapping are apart while it is filled, and each step of making the
values of a document keeps this for every cell (`Make.Keeps`). It holds of the empty
heap that making begins with, and so of what a document stands for (`apart_ofDocument`).
-/
import TableSink.Proofs.Except
import TableSink.Yaml.Meaning

namespace TableSink

namespace Rows

variable {κ α : Type} [BEq κ]

/-- No key is the same as one before it. -/
def Apart (rows : List (κ × α)) : Prop :=
  (rows.map (·.1)).Pairwise fun earlier later => (later == earlier) = false

theorem apart_put {rows : List (κ × α)} (h : Apart rows) (k : κ) (a : α) :
    Apart (put rows k a) := by
  rw [Apart, map_fst_put]
  split
  · exact h
  next hk =>
    refine List.pairwise_append.mpr ⟨h, List.pairwise_singleton _ _, fun j hj k' hk' => ?_⟩
    simp only [List.any_eq_true, not_exists, not_and, Bool.not_eq_true] at hk
    rw [List.mem_singleton.mp hk']
    exact hk j hj

end Rows

namespace Yaml

/-- The keys of the cell are apart; a list and a set have none. -/
def Cell.Apart : Cell → Prop
  | .map rows | .orderedMap rows => Rows.Apart rows
  | .list _ | .set _ => True

/-- The keys of each cell are apart. -/
def Heap.Apart (h : Heap) : Prop :=
  ∀ c ∈ h.cells, c.Apart

namespace Heap

variable {h : Heap}

theorem apart_cell (hh : h.Apart) (id : CellId) : (h.cell id).Apart := by
  rw [cell]
  cases hid : h.cells[id]? with
  | none => exact trivial
  | some c => exact hh c (Array.mem_of_getElem? hid)

theorem apart_push (hh : h.Apart) {c : Cell} (hc : c.Apart) : (h.push c).Apart := by
  intro c' hm
  rcases Array.mem_push.mp hm with hm | rfl
  · exact hh c' hm
  · exact hc

theorem apart_set (hh : h.Apart) (id : CellId) {c : Cell} (hc : c.Apart) :
    (h.set id c).Apart := by
  intro c' hm
  rcases Array.mem_or_eq_of_mem_setIfInBounds hm with hm | rfl
  · exact hh c' hm
  · exact hc

end Heap

namespace Make

/-! ## Steps that keep keys apart -/

/-- The step keeps the keys of all cells apart, and its answer is as said. -/
def Keeps {α : Type} (x : Make α) (Q : α → Prop) : Prop :=
  ∀ m a m', x.run m = .ok (a, m') → m.heap.Apart → m'.heap.Apart ∧ Q a

section

variable {α β : Type} {P : α → Prop} {Q : β → Prop} {x : Make α}

theorem keeps_pure {a : α} (ha : P a) : (pure a : Make α).Keeps P := by
  rintro m _ _ ⟨⟩ hm
  exact ⟨hm, ha⟩

theorem keeps_bind {f : α → Make β} (hx : x.Keeps P) (hf : ∀ a, P a → (f a).Keeps Q) :
    (x >>= f).Keeps Q := by
  intro m b m' hrun hm
  rw [StateT.run_bind] at hrun
  cases hx' : x.run m with
  | error e =>
    rw [hx'] at hrun
    cases hrun
  | ok r =>
    rw [hx'] at hrun
    obtain ⟨hm₁, ha⟩ := hx m r.1 r.2 hx' hm
    exact hf r.1 ha r.2 b m' hrun hm₁

theorem keeps_lift (x : Except Error α) : (liftM x : Make α).Keeps fun _ => True := by
  intro m a m' hrun hm
  cases x with
  | error e => cases hrun
  | ok a' =>
    cases hrun
    exact ⟨hm, True.intro⟩

theorem keeps_throw (e : Error) : (throw e : Make α).Keeps P :=
  nofun

theorem keeps_get : (get : Make Maker).Keeps (·.heap.Apart) := by
  rintro m _ _ ⟨⟩ hm
  exact ⟨hm, hm⟩

theorem keeps_set {m : Maker} (h : m.heap.Apart) : (set m : Make PUnit).Keeps fun _ => True := by
  rintro _ _ _ ⟨⟩ -
  exact ⟨h, True.intro⟩

theorem keeps_modify {f : Maker → Maker} (h : ∀ m, m.heap.Apart → (f m).heap.Apart) :
    (modify f : Make PUnit).Keeps fun _ => True := by
  rintro m _ _ ⟨⟩ hm
  exact ⟨h m hm, True.intro⟩

theorem keeps_foldlM {f : β → α → Make β} (hf : ∀ b a, Q b → (f b a).Keeps Q) (l : List α) {b : β}
    (hb : Q b) : (l.foldlM f b).Keeps Q := by
  induction l generalizing b with
  | nil => exact keeps_pure hb
  | cons a l ih =>
    rw [List.foldlM_cons]
    exact keeps_bind (hf b a hb) fun b' hb' => ih hb'

theorem keeps_mapM {f : α → Make β} (hf : ∀ a, (f a).Keeps Q) (l : List α) :
    (l.mapM f).Keeps fun _ => True := by
  induction l with
  | nil => exact keeps_pure True.intro
  | cons a l ih =>
    rw [List.mapM_cons]
    exact keeps_bind (hf a) fun b _ => keeps_bind ih fun bs _ => keeps_pure True.intro

theorem keeps_forIn {f : α → β → Make (ForInStep β)} (hf : ∀ a b, (f a b).Keeps fun _ => True)
    (l : List α) (b : β) : (forIn l b f).Keeps fun _ => True := by
  induction l generalizing b with
  | nil => exact keeps_pure True.intro
  | cons a l ih =>
    rw [List.forIn_cons]
    refine keeps_bind (hf a b) fun step _ => ?_
    cases step with
    | done b' => exact keeps_pure True.intro
    | yield b' => exact ih b'

end

/-! ## The steps of making -/

theorem keeps_allocate {c : Cell} (hc : c.Apart) : (allocate c).Keeps fun _ => True :=
  keeps_bind keeps_get fun _ _ => keeps_bind (keeps_modify fun _ hm => Heap.apart_push hm hc)
    fun _ _ => keeps_pure True.intro

theorem keeps_store (id : CellId) {c : Cell} (hc : c.Apart) : (store id c).Keeps fun _ => True :=
  keeps_modify fun _ hm => Heap.apart_set hm id hc

theorem keeps_postpone (n : NodeId) (id : CellId) : (postpone n id).Keeps fun _ => True :=
  keeps_modify fun _ hm => hm

theorem keeps_keep (n : NodeId) (p : Part) : (keep n p).Keeps fun _ => True :=
  keeps_modify fun _ hm => hm

theorem keeps_node (n : NodeId) : (node n).Keeps fun _ => True :=
  keeps_bind keeps_get fun _ _ => keeps_pure True.intro

theorem keeps_merge (n : NodeId) : (merge n).Keeps fun _ => True :=
  keeps_bind keeps_get fun _ hm => keeps_bind (keeps_lift _) fun _ _ => keeps_set hm

theorem keeps_scalar (kind : ScalarKind) (n : NodeId) : (scalar kind n).Keeps fun _ => True := by
  refine keeps_bind keeps_get fun m _ => ?_
  split
  · exact keeps_throw _
  · refine keeps_bind (keeps_lift _) fun v _ => ?_
    split
    · split <;> exact keeps_pure True.intro
    · exact keeps_pure True.intro

theorem keeps_keyOf (p : Part) : (keyOf p).Keeps fun _ => True := by
  unfold keyOf
  split
  · refine keeps_bind keeps_get fun m _ => ?_
    split
    · exact keeps_pure True.intro
    · exact keeps_throw _
  · exact keeps_pure True.intro

theorem keeps_refuseChangeable (p : Part) : (refuseChangeable p).Keeps fun _ => True := by
  unfold refuseChangeable
  split
  · exact keeps_pure True.intro
  · exact keeps_bind keeps_get fun m _ => keeps_throw _

theorem keeps_refuseDuplicate (rows : List (Part × Part)) (key value : Part) :
    (refuseDuplicate rows key value).Keeps fun _ => True := by
  unfold refuseDuplicate
  split
  · exact keeps_pure True.intro
  · refine keeps_bind keeps_get fun m _ => ?_
    dsimp only
    split <;> exact keeps_throw _

theorem keeps_pairOf (n : NodeId) : (pairOf n).Keeps fun _ => True := by
  refine keeps_bind (keeps_node n) fun node _ => ?_
  split
  · exact keeps_pure True.intro
  · exact keeps_throw _

section

variable {part : MakePart}

theorem keeps_mappingRows (hpart : ∀ deep n, (part deep n).Keeps fun _ => True) (deep : Bool)
    (n : NodeId) : (mappingRows part deep n).Keeps Rows.Apart := by
  refine keeps_bind (keeps_merge n) fun _ _ => keeps_bind (keeps_node n) fun mapping _ => ?_
  refine keeps_foldlM (fun rows row hrows => ?_) _ List.Pairwise.nil
  refine keeps_bind (hpart true row.1) fun key _ => keeps_bind (keeps_keyOf key) fun key _ => ?_
  refine keeps_bind (hpart deep row.2) fun value _ => ?_
  refine keeps_bind (keeps_refuseChangeable key) fun _ _ => ?_
  split
  · exact keeps_bind (keeps_refuseDuplicate rows key value) fun _ _ =>
      keeps_pure (Rows.apart_put hrows key value)
  · exact keeps_pure (Rows.apart_put hrows key value)

theorem keeps_orderedRows (hpart : ∀ deep n, (part deep n).Keeps fun _ => True) (deep : Bool)
    (items : List NodeId) : (orderedRows part deep items).Keeps Rows.Apart := by
  refine keeps_foldlM (fun rows item hrows => ?_) _ List.Pairwise.nil
  refine keeps_bind (keeps_pairOf item) fun row _ => keeps_bind (hpart deep row.1) fun key _ => ?_
  refine keeps_bind (keeps_refuseChangeable key) fun _ _ => ?_
  split
  · exact keeps_bind (keeps_throw (P := fun _ => True) _) fun _ _ =>
      keeps_bind (hpart deep row.2) fun value _ => keeps_pure (Rows.apart_put hrows key value)
  · exact keeps_bind (hpart deep row.2) fun value _ => keeps_pure (Rows.apart_put hrows key value)

theorem keeps_pairTuples (hpart : ∀ deep n, (part deep n).Keeps fun _ => True) (deep : Bool)
    (items : List NodeId) : (pairTuples part deep items).Keeps fun _ => True :=
  keeps_mapM (fun item => keeps_bind (keeps_pairOf item) fun row _ =>
    keeps_bind (hpart deep row.1) fun _ _ => keeps_bind (hpart deep row.2) fun _ _ =>
      keeps_pure (P := fun _ => True) True.intro) items

theorem keeps_content (hpart : ∀ deep n, (part deep n).Keeps fun _ => True) (deep : Bool)
    (n : NodeId) : (content part deep n).Keeps Cell.Apart := by
  refine keeps_bind (keeps_node n) fun node _ => ?_
  split
  · exact keeps_bind (keeps_mapM (hpart deep) _) fun _ _ => keeps_pure True.intro
  · exact keeps_bind (keeps_mappingRows hpart deep n) fun _ hrows => keeps_pure hrows
  · exact keeps_bind (keeps_mappingRows hpart deep n) fun _ _ => keeps_pure True.intro
  · exact keeps_bind (keeps_orderedRows hpart deep _) fun _ hrows => keeps_pure hrows
  · exact keeps_bind (keeps_pairTuples hpart deep _) fun _ _ => keeps_pure True.intro
  · exact keeps_throw _

end

theorem apart_of_emptyCell? {t : Tag} {c : Cell} (h : emptyCell? t = some c) : c.Apart := by
  cases t <;> cases h <;> first | exact True.intro | exact List.Pairwise.nil

/-- One level of nodes after the other: what lies below a node is made with less fuel. -/
theorem keeps_part (fuel : Nat) (around : List NodeId) (deep : Bool) (n : NodeId) :
    (part fuel around deep n).Keeps fun _ => True := by
  induction fuel generalizing around deep n with
  | zero => exact keeps_throw _
  | succ fuel ih =>
    rw [part]
    refine keeps_bind keeps_get fun m _ => ?_
    split
    · exact keeps_pure True.intro
    · split
      · exact keeps_pure True.intro
      · have hkeep (p : Part) : (do keep n p; return p : Make Part).Keeps fun _ => True :=
          keeps_bind (keeps_keep n p) fun _ _ => keeps_pure True.intro
        refine keeps_bind (keeps_node n) fun node _ => ?_
        dsimp only
        split
        next empty hempty =>
          refine keeps_bind (keeps_allocate (apart_of_emptyCell? hempty)) fun id _ => ?_
          split
          · exact keeps_bind (keeps_content (ih _) true n) fun c hc =>
              keeps_bind (keeps_store id hc) fun _ _ => hkeep _
          · exact keeps_bind (keeps_postpone n id) fun _ _ => hkeep _
        · exact keeps_bind (keeps_scalar _ n) fun p _ => hkeep p
        · exact keeps_throw _

theorem keeps_fillWaiting (fuel : Nat) : (fillWaiting fuel).Keeps fun _ => True := by
  induction fuel with
  | zero => exact keeps_throw _
  | succ fuel ih =>
    refine keeps_bind keeps_get fun m _ => ?_
    split
    · exact keeps_pure True.intro
    · refine keeps_bind (keeps_modify fun _ hm => hm) fun _ _ => ?_
      refine keeps_bind (keeps_forIn (fun row _ => ?_) _ _) fun _ _ => ih
      exact keeps_bind keeps_get fun m _ => keeps_bind (keeps_content (keeps_part _ _) false _)
        fun c hc => keeps_bind (keeps_store _ hc) fun _ _ => keeps_pure True.intro

theorem keeps_root (n : NodeId) : (root n).Keeps fun _ => True :=
  keeps_bind keeps_get fun _ _ => keeps_bind (keeps_part _ _ _ _) fun _ _ =>
    keeps_bind (keeps_fillWaiting _) fun _ _ => keeps_pure True.intro

end Make

/-- No mapping in a document has a key twice. -/
theorem Meaning.apart_ofDocument {d : Graph.Document} {m : Meaning} (h : ofDocument d = .ok m) :
    m.heap.Apart := by
  obtain ⟨⟨p, maker⟩, hroot, hm⟩ := Except.bind_eq_ok_iff.mp h
  cases hm
  exact (Make.keeps_root d.root _ p maker hroot nofun).1

end Yaml

end TableSink
