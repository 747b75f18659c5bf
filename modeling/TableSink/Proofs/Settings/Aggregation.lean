/-
Settings from several statements.

The statements are taken from left to right, and the first that is refused ends
the run (`Mapping.Refused`). So what a text comes to is told by the statements up
to that one: their announcements are logged, the fault of the last is reported
with its text, and what follows it is never looked at
(`SettingsRequest.fulfil_of_first_refused`).
-/
import TableSink.Proofs.Settings.Mappings
import TableSink.Proofs.Statement.Prefix
import TableSink.Proofs.Statement.Segment

namespace TableSink

open Text

/-! ## Refused statements -/

/-- The statement is refused: it cannot be read, or its mapping breaks the rule.
In the second case the mapping was announced before. -/
inductive Mapping.Refused (text : Text) : List Text → StatementFault → Prop
  | unreadable {e} : Statement.parse text = .error e → Refused text [] (.unreadable e)
  | violation {s v} : Statement.parse text = .ok s → (ofStatement s).violation? = some v →
      Refused text [(ofStatement s).announcement] (.violation v)

namespace Mapping

/-- A statement gives a mapping or is refused. -/
theorem builtFrom_or_refused (text : Text) :
    (∃ m, BuiltFrom text m) ∨ ∃ log fault, Refused text log fault := by
  cases hs : Statement.parse text with
  | error e => exact .inr ⟨_, _, .unreadable hs⟩
  | ok s =>
    cases hv : (ofStatement s).violation? with
    | none => exact .inl ⟨_, s, hs, rfl, hv⟩
    | some v => exact .inr ⟨_, _, .violation hs hv⟩

theorem builtFrom_or_first_refused (texts : List Text) :
    (∃ ms, List.Forall₂ BuiltFrom texts ms) ∨
    ∃ good bad rest ms log fault, texts = good ++ bad :: rest ∧ List.Forall₂ BuiltFrom good ms ∧
      Refused bad log fault := by
  induction texts with
  | nil => exact .inl ⟨[], .nil⟩
  | cons text texts ih =>
    rcases builtFrom_or_refused text with ⟨m, hm⟩ | ⟨log, fault, hf⟩
    · rcases ih with ⟨ms, hms⟩ | ⟨good, bad, rest, ms, log, fault, rfl, hms, hf⟩
      · exact .inl ⟨m :: ms, .cons hm hms⟩
      · exact .inr ⟨text :: good, bad, rest, m :: ms, log, fault, rfl, .cons hm hms, hf⟩
    · exact .inr ⟨[], text, texts, [], log, fault, rfl, .nil, hf⟩

/-! ## Runs -/

theorem collect_cons_of_builtFrom {text : Text} {m : Mapping} (h : m.BuiltFrom text)
    (texts : List Text) :
    collect (text :: texts) =
      ⟨m.announcement :: (collect texts).log, (collect texts).result.map (m :: ·)⟩ := by
  obtain ⟨s, hs, rfl, hv⟩ := h
  simp only [collect, hs, hv]

theorem collect_cons_of_refused {text : Text} {log : List Text} {fault : StatementFault}
    (h : Refused text log fault) (texts : List Text) :
    collect (text :: texts) = ⟨log, .error (.config (.statement text fault))⟩ := by
  cases h with
  | unreadable he => simp only [collect, he]
  | violation hs hv => simp only [collect, hs, hv]

/-- Statements that give mappings are announced, and the run goes on. -/
theorem collect_append {good : List Text} {ms : List Mapping}
    (h : List.Forall₂ BuiltFrom good ms) (rest : List Text) :
    collect (good ++ rest) =
      ⟨ms.map announcement ++ (collect rest).log, (collect rest).result.map (ms ++ ·)⟩ := by
  induction h with
  | nil => cases hr : (collect rest).result <;> simp [← hr, Except.map]
  | cons hm _ ih =>
    rw [List.cons_append, collect_cons_of_builtFrom hm, ih]
    cases (collect rest).result <;> rfl

theorem collect_of_builtFrom {texts : List Text} {ms : List Mapping}
    (h : List.Forall₂ BuiltFrom texts ms) : collect texts = ⟨ms.map announcement, .ok ms⟩ := by
  have hrun := collect_append h []
  simpa [collect, Except.map] using hrun

theorem collect_of_first_refused {good : List Text} {bad : Text} {ms : List Mapping}
    {log : List Text} {fault : StatementFault} (h : List.Forall₂ BuiltFrom good ms)
    (hf : Refused bad log fault) (rest : List Text) :
    collect (good ++ bad :: rest) =
      ⟨ms.map announcement ++ log, .error (.config (.statement bad fault))⟩ := by
  rw [collect_append h, collect_cons_of_refused hf]
  rfl

end Mapping

/-! ## Requests -/

namespace SettingsRequest

/-- A text with statements is not empty, so the run over them decides. -/
theorem fulfil_of_segments {r : SettingsRequest} {text : Text} (hr : r.mappings = some text)
    (hne : Statement.segments text ≠ []) :
    r.fulfil =
      ⟨(Mapping.collect (Statement.segments text)).log,
        (Mapping.collect (Statement.segments text)).result.bind r.complete⟩ := by
  have htext : text ≠ [] := by
    rintro rfl
    exact hne rfl
  simp only [fulfil, hr, Option.getD_some, if_neg htext]

/-- The first statement that is refused decides over every text that has it
there, whatever else the request asks for. -/
theorem fulfil_of_first_refused {r : SettingsRequest} {text bad : Text} {good rest : List Text}
    {ms : List Mapping} {log : List Text} {fault : StatementFault} (hr : r.mappings = some text)
    (htext : Statement.segments text = good ++ bad :: rest)
    (h : List.Forall₂ Mapping.BuiltFrom good ms) (hf : Mapping.Refused bad log fault) :
    r.fulfil =
      ⟨ms.map Mapping.announcement ++ log, .error (.config (.statement bad fault))⟩ := by
  have hne : Statement.segments text ≠ [] := by simp [htext]
  rw [fulfil_of_segments hr hne, htext, Mapping.collect_of_first_refused h hf]
  rfl

/-- A statement that adds rows. -/
def adding : Statement where
  target := "t"
  source := "s"
  selectsAll := true
  fields := []
  keys := []
  mode := "INSERT"

/-- The text of this statement. -/
def addingText : Text :=
  "INSERT INTO t SELECT * FROM s"

theorem builtFrom_addingText : Mapping.BuiltFrom addingText (.ofStatement adding) :=
  ⟨adding, by with_unfolding_all rfl, rfl, by with_unfolding_all rfl⟩

end SettingsRequest

end TableSink
