/-
What is to be seen of a password.

The password of a request is put into its settings, and nothing else looks at it
(`fulfil_withPassword`): whatever is logged, reported or shown is the same for
every password, and only the settings themselves are told apart by it. The
password of a configuration is a value that has to be written first, and where
it cannot be, the run ends before it has begun (`outcome_of_password_not_writable`).
-/
import TableSink.Proofs.Config.Request
import TableSink.Proofs.Settings.Equality

namespace TableSink

open Text

/-! ## Settings with another password -/

/-- Settings that differ in nothing but the password, and do not show that they
do. -/
structure Settings.AlikeButPassword (s t : Settings) : Prop where
  parts : t = { s with password := t.password }
  literal : t.literal = s.literal
  equal : (s == t) = true ↔ s.password = t.password

/-- Outcomes that differ in nothing but the password of their settings. -/
structure Outcome.AlikeButPassword (o p : Outcome Settings) : Prop where
  log : o.log = p.log
  error : ∀ e, o.result = .error e ↔ p.result = .error e
  settings : ∀ s t, o.result = .ok s → p.result = .ok t → s.AlikeButPassword t

/-- The settings with another password. -/
def Settings.withPassword (s : Settings) (password : Option Text) : Settings :=
  { s with password }

/-- The outcome with another password in its settings. -/
def Outcome.withPassword (o : Outcome Settings) (password : Option Text) : Outcome Settings :=
  ⟨o.log, o.result.map (·.withPassword password)⟩

theorem Settings.alikeButPassword_withPassword (s : Settings) (password : Option Text) :
    s.AlikeButPassword (s.withPassword password) where
  parts := rfl
  literal := rfl
  equal := by
    rw [beq_iff]
    constructor
    · rintro ⟨-, -, hpassword, -⟩
      exact hpassword
    · intro hpassword
      exact ⟨rfl, rfl, hpassword, beq_self_eq_true s.mappings, rfl, rfl, rfl, rfl⟩

theorem Outcome.alikeButPassword_withPassword (o : Outcome Settings) (password : Option Text) :
    o.AlikeButPassword (o.withPassword password) where
  log := rfl
  error _ := Except.map_eq_error_iff.symm
  settings s t hs ht := by
    obtain ⟨s', hs', rfl⟩ := Except.map_eq_ok_iff.mp ht
    obtain rfl : s = s' := Except.ok.inj (hs.symm.trans hs')
    exact s.alikeButPassword_withPassword password

theorem Outcome.alikeButPassword_error (log : List Text) (e : SettingsError) :
    AlikeButPassword ⟨log, .error e⟩ ⟨log, .error e⟩ where
  log := rfl
  error _ := Iff.rfl
  settings _ _ hs := nomatch hs

namespace SettingsRequest

theorem complete_withPassword (r : SettingsRequest) (password : Option Text) (ms : List Mapping) :
    { r with password }.complete ms = (r.complete ms).map (·.withPassword password) := by
  cases hpolicy : ErrorPolicy.parse r.policy with
  | error e =>
    simp only [complete, hpolicy]
    rfl
  | ok policy =>
    simp only [complete, hpolicy]
    by_cases hconnection : r.connection.getD [] = []
    · simp only [if_pos hconnection]
      rfl
    by_cases hbatch : r.batchSize ≤ 0
    · simp only [if_neg hconnection, if_pos hbatch]
      rfl
    by_cases hdelay : r.retryDelay ≤ 0
    · simp only [if_neg hconnection, if_neg hbatch, if_pos hdelay]
      rfl
    simp only [Settings.create, if_neg hconnection, if_neg hbatch, if_neg hdelay]
    rfl

/-- Another password makes the same outcome, with this password. -/
theorem fulfil_withPassword (r : SettingsRequest) (password : Option Text) :
    { r with password }.fulfil = r.fulfil.withPassword password := by
  have hcomplete : { r with password }.complete = fun ms =>
      (r.complete ms).map (·.withPassword password) := funext (r.complete_withPassword password)
  simp only [fulfil]
  split
  · rfl
  split
  · rfl
  · rw [hcomplete, Outcome.withPassword]
    cases (Mapping.collect _).result <;> rfl

end SettingsRequest

/-! ## Configurations with another password -/

namespace Config

/-- The same value holds for each key but the password, and the keys that are
not read are the same. -/
structure AgreesButPassword (c d : Config) : Prop where
  values : ∀ key, key ≠ .password → c.value key = d.value key
  strange : c.strangeKeys.Perm d.strangeKeys

/-- Has the row another key than the password? -/
def isOther (row : Value × Value) : Bool :=
  !(row.1 == .text Key.password.name)

theorem isOther_iff {row : Value × Value} :
    isOther row = true ↔ row.1 ≠ .text Key.password.name := by
  rw [isOther, Bool.not_eq_true', Bool.eq_false_iff, ne_eq, Value.beq_text_iff]

theorem strangeKeys_eq (c : Config) :
    c.strangeKeys = ((c.rows.filter isOther).map (·.1)).filter fun k => !isKnown k := by
  rw [strangeKeys, List.filter_map, List.filter_map, List.filter_filter]
  congr 1
  refine List.filter_congr fun row _ => ?_
  -- The password is one of the keys that are read.
  cases hknown : isKnown row.1 with
  | true => simp [hknown]
  | false =>
    have hother : isOther row = true := by
      rw [isOther_iff]
      intro hrow
      rw [isKnown_iff.mpr ⟨.password, hrow⟩] at hknown
      cases hknown
    simp [hknown, hother]

/-- Configurations with the same rows in some order, but for the password. -/
theorem agreesButPassword_of_rows {c d : Config} (hc : c.HoldsOnce) (hd : d.HoldsOnce)
    (h : (c.rows.filter isOther).Perm (d.rows.filter isOther)) : c.AgreesButPassword d where
  values key hkey := by
    have hother (v : Value) : isOther (.text key.name, v) = true := by
      rw [isOther_iff, ne_eq, Value.text.injEq]
      exact fun hname => hkey (Key.name_injective hname)
    refine value_eq_of_rows hc hd fun v => ?_
    have hrow := h.mem_iff (a := (.text key.name, v))
    simpa only [List.mem_filter, hother, and_true] using hrow
  strange := by
    rw [strangeKeys_eq c, strangeKeys_eq d]
    exact (h.map _).filter _

variable {c d : Config}

theorem AgreesButPassword.symm (h : c.AgreesButPassword d) : d.AgreesButPassword c where
  values key hkey := (h.values key hkey).symm
  strange := h.strange.symm

theorem request_of_agreesButPassword (h : c.AgreesButPassword d)
    (hc : (c.value .password).isWritable = true) (hd : (d.value .password).isWritable = true) :
    d.request = c.request.map fun r => { r with password := (d.value .password).asText? } := by
  have hvalue (key : Key) (hkey : key ≠ .password) : d.value key = c.value key :=
    (h.values key hkey).symm
  have hint (key : Key) (hkey : key ≠ .password) : d.int key = c.int key := by
    rw [int, int, hvalue key hkey]
  have hwritable : (∀ key ∈ Key.texts, (d.value key).isWritable = true) ↔
      ∀ key ∈ Key.texts, (c.value key).isWritable = true := by
    refine forall₂_congr fun key _ => ?_
    by_cases hkey : key = .password
    · rw [hkey, hc, hd]
    · rw [hvalue key hkey]
  by_cases htexts : ∀ key ∈ Key.texts, (c.value key).isWritable = true
  · have hrequest (m b n : Int) : d.requestWith m b n =
        { c.requestWith m b n with password := (d.value .password).asText? } := by
      rw [requestWith, hvalue .mappings (by decide), hvalue .connection (by decide),
        hvalue .user (by decide), hvalue .errorPolicy (by decide)]
      rfl
    rw [request_of_texts htexts, request_of_texts (hwritable.mpr htexts),
      hint .maxRetries (by decide), hint .batchSize (by decide), hint .retryDelay (by decide)]
    simp only [hrequest]
    cases c.int .maxRetries
    case error => rfl
    cases c.int .batchSize
    case error => rfl
    cases c.int .retryDelay
    case error => rfl
    case ok => rfl
  · rw [request_of_not_writable htexts, request_of_not_writable (mt hwritable.mp htexts)]
    rfl

theorem settings_of_agreesButPassword (h : c.AgreesButPassword d)
    (hc : (c.value .password).isWritable = true) (hd : (d.value .password).isWritable = true) :
    d.settings = c.settings.withPassword (d.value .password).asText? := by
  rw [settings, settings, request_of_agreesButPassword h hc hd]
  cases c.request with
  | error e => rfl
  | ok r => exact r.fulfil_withPassword _

theorem strange_writable_iff (h : c.AgreesButPassword d) :
    (∀ k ∈ d.strangeKeys, k.isWritable = true) ↔ ∀ k ∈ c.strangeKeys, k.isWritable = true := by
  simp only [h.strange.mem_iff]

theorem warnings_of_agreesButPassword (h : c.AgreesButPassword d) :
    d.run.warnings = c.run.warnings := by
  by_cases hstrange : ∀ k ∈ c.strangeKeys, k.isWritable = true
  · rw [run_of_writable hstrange, run_of_writable ((strange_writable_iff h).mpr hstrange),
      sort_eq_of_perm (h.strange.map Value.toText)]
  · rw [run_of_strange_not_writable hstrange,
      run_of_strange_not_writable (mt (strange_writable_iff h).mp hstrange)]

theorem outcome_of_agreesButPassword (h : c.AgreesButPassword d)
    (hc : (c.value .password).isWritable = true) (hd : (d.value .password).isWritable = true) :
    d.run.outcome = c.run.outcome.withPassword (d.value .password).asText? := by
  by_cases hstrange : ∀ k ∈ c.strangeKeys, k.isWritable = true
  · rw [run_of_writable hstrange, run_of_writable ((strange_writable_iff h).mpr hstrange)]
    exact settings_of_agreesButPassword h hc hd
  · rw [run_of_strange_not_writable hstrange,
      run_of_strange_not_writable (mt (strange_writable_iff h).mp hstrange)]
    rfl

theorem outcome_of_password_not_writable (h : (c.value .password).isWritable = false) :
    c.run.outcome = ⟨[], .error .longInteger⟩ := by
  refine outcome_of_not_writable fun hc => ?_
  rw [hc.texts .password (by decide)] at h
  cases h

end Config

/-- **A password does not show.** Requests that differ in nothing but their
passwords come to the same log and the same error, or to settings that differ in
nothing but their passwords, are written alike, and are equal where the passwords
are. So do configurations, with the same warnings, if the values of both passwords
can be written, or neither; one that cannot be written takes the settings away. -/
theorem password_unseen (r : SettingsRequest) (password : Option Text) (c d : Config) :
    r.fulfil.AlikeButPassword { r with password }.fulfil ∧
    (c.AgreesButPassword d →
      c.run.warnings = d.run.warnings ∧
      ((c.value .password).isWritable = (d.value .password).isWritable →
        c.run.outcome.AlikeButPassword d.run.outcome) ∧
      ((c.value .password).isWritable = false →
        c.run.outcome = ⟨[], .error .longInteger⟩)) := by
  constructor
  · rw [r.fulfil_withPassword password]
    exact Outcome.alikeButPassword_withPassword _ _
  · intro h
    refine ⟨(Config.warnings_of_agreesButPassword h).symm, fun hboth => ?_, fun hc => ?_⟩
    · cases hc : (c.value .password).isWritable with
      | true =>
        rw [Config.outcome_of_agreesButPassword h hc (hboth.symm.trans hc)]
        exact Outcome.alikeButPassword_withPassword _ _
      | false =>
        rw [Config.outcome_of_password_not_writable hc,
          Config.outcome_of_password_not_writable (hboth.symm.trans hc)]
        exact Outcome.alikeButPassword_error _ _
    · exact Config.outcome_of_password_not_writable hc

namespace Config

/-- The configuration with the two values that have to be set, and a password. -/
def guarded (password : Value) : Config where
  rows := (.text Key.password.name, password) :: connected.rows

theorem mem_connected_iff {key : Key} {v : Value} : (.text key.name, v) ∈ connected.rows ↔
    key = .connection ∧ v = .text "c" ∨
      key = .mappings ∧ v = .text "INSERT INTO t SELECT * FROM s" := by
  simp only [connected, List.mem_cons, List.not_mem_nil, or_false, Prod.mk.injEq,
    Value.text.injEq, Key.name_inj]

theorem mem_guarded_iff {password : Value} {key : Key} {v : Value} :
    (.text key.name, v) ∈ (guarded password).rows ↔
      key = .password ∧ v = password ∨ (.text key.name, v) ∈ connected.rows := by
  simp only [guarded, List.mem_cons, Prod.mk.injEq, Value.text.injEq, Key.name_inj]

theorem holdsOnce_connected : connected.HoldsOnce := by
  intro key v w hv hw
  rw [mem_connected_iff] at hv hw
  rcases hv with ⟨rfl, rfl⟩ | ⟨rfl, rfl⟩
  · simp only [reduceCtorEq, true_and, false_and, or_false] at hw
    exact hw.symm
  · simp only [reduceCtorEq, true_and, false_and, false_or] at hw
    exact hw.symm

theorem holdsOnce_guarded (password : Value) : (guarded password).HoldsOnce := by
  intro key v w hv hw
  rw [mem_guarded_iff] at hv hw
  by_cases hkey : key = .password
  · subst hkey
    simp only [mem_connected_iff, reduceCtorEq, false_and, or_false, true_and] at hv hw
    rw [hv, hw]
  · simp only [hkey, false_and, false_or] at hv hw
    exact holdsOnce_connected key v w hv hw

theorem connected_agreesButPassword_guarded (password : Value) :
    connected.AgreesButPassword (guarded password) := by
  refine agreesButPassword_of_rows holdsOnce_connected (holdsOnce_guarded password) ?_
  have hpassword : ¬isOther (.text Key.password.name, password) = true := by
    rw [isOther_iff, not_not]
  rw [guarded, List.filter_cons_of_neg hpassword]

theorem value_guarded (password : Value) : (guarded password).value .password = password := by
  rw [guarded, value_cons_text, if_pos rfl]

theorem not_writable_guarded : ((guarded (.int leastLong)).value .password).isWritable = false := by
  rw [value_guarded, Value.isWritable_leastLong]

theorem password_unseen_guarded :
    (connected.AgreesButPassword (guarded (.text "p")) ∧
      connected.run.outcome.result = .ok addingSettings ∧
      connected.run.warnings = (guarded (.text "p")).run.warnings ∧
      connected.run.outcome.AlikeButPassword (guarded (.text "p")).run.outcome) ∧
    ((guarded (.int leastLong)).AgreesButPassword connected ∧
      (guarded (.int leastLong)).run.warnings = connected.run.warnings ∧
      (guarded (.int leastLong)).run.outcome = ⟨[], .error .longInteger⟩) := by
  have hunset := connected_agreesButPassword_guarded (.text "p")
  have hlong := (connected_agreesButPassword_guarded (.int leastLong)).symm
  obtain ⟨hwarnings, houtcome, -⟩ :=
    (password_unseen SettingsRequest.faulty none connected (guarded (.text "p"))).2 hunset
  obtain ⟨hwarnings', -, houtcome'⟩ :=
    (password_unseen SettingsRequest.faulty none (guarded (.int leastLong)) connected).2 hlong
  refine ⟨⟨hunset, outcome_connected, hwarnings, houtcome ?_⟩, hlong, hwarnings',
    houtcome' not_writable_guarded⟩
  rw [value_guarded, value_connected]
  rfl

/-- A password that cannot be written shows. -/
theorem not_forall_password_unseen :
    ¬∀ c d : Config, c.AgreesButPassword d → c.run.outcome.AlikeButPassword d.run.outcome := by
  intro h
  have halike := h _ _ (connected_agreesButPassword_guarded (.int leastLong))
  have hlong : (guarded (.int leastLong)).run.outcome = ⟨[], .error .longInteger⟩ :=
    outcome_of_password_not_writable not_writable_guarded
  have herror : connected.run.outcome.result = .error .longInteger := by
    rw [halike.error, hlong]
  rw [outcome_connected] at herror
  cases herror

end Config

end TableSink
