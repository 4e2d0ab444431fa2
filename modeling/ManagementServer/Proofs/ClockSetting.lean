import Mathlib.Data.Int.Basic
import ManagementServer.Json.Member
import ManagementServer.Proofs.SystemModule

/-!
# The clock of the system module once it was set

A clock that was set goes on from the instant that it was set to. Its instants can be shown in the
years 0 to 9999; the settings that are accepted are more, since a time with its offset can lie
outside these years in UTC, and a clock that is set within them leaves them one day.
-/

namespace ManagementServer

namespace Time

/-! ## The years of instants -/

lemma yearOfEra_of_last_days {e : Int} (h : 146037 ≤ e) (h' : e < 146097) :
    (e - e / 1460 + e / 36524 - e / 146096) / 365 = 399 := by
  omega

lemma Date.year_ofDays_nonneg (days : Int) : 0 ≤ (Date.ofDays days).year ↔ -719528 ≤ days := by
  have hlt := Int.emod_lt_of_pos (days + 719468) (b := 146097) (by decide)
  unfold Date.ofDays
  dsimp only
  -- The last sixty days of an era are in the year behind it, which begins in January.
  by_cases hl : 146037 ≤ (days + 719468) % 146097
  · rw [yearOfEra_of_last_days hl hlt]
    split <;> split <;> omega
  · split <;> split <;> omega

/-- The calendar repeats after an era of 400 years. -/
lemma Date.year_ofDays_add_eras (days eras : Int) :
    (Date.ofDays (days + eras * 146097)).year = (Date.ofDays days).year + eras * 400 := by
  have hdays : days + eras * 146097 + 719468 = days + 719468 + eras * 146097 := by omega
  unfold Date.ofDays
  dsimp only
  rw [hdays, Int.add_mul_emod_self_right, Int.add_mul_ediv_right _ _ (by decide)]
  generalize (days + 719468) % 146097 = e
  split <;> split <;> omega

lemma Date.year_ofDays_le (days : Int) : (Date.ofDays days).year ≤ 9999 ↔ days < 2932897 := by
  have hyear := year_ofDays_add_eras (days - 25 * 146097) 25
  have hshifted := year_ofDays_nonneg (days - 25 * 146097)
  rw [Int.sub_add_cancel] at hyear
  omega

/-- The first instant that a timestamp in UTC can be written of, at the start of year 0. -/
def firstWritable : Instant := Date.toDays ⟨0, 1, 1⟩ * nanosPerDay

/-- The instants that a timestamp in UTC can be written of. -/
def Instant.IsWritable (t : Instant) : Prop := firstWritable ≤ t ∧ t < endOfTime

/-- The instants that a date can hold. -/
def Instant.IsHeld (t : Instant) : Prop := firstInstant ≤ t ∧ t < endOfTime

instance (t : Instant) : Decidable t.IsWritable := inferInstanceAs (Decidable (_ ∧ _))

instance (t : Instant) : Decidable t.IsHeld := inferInstanceAs (Decidable (_ ∧ _))

lemma Instant.plus?_eq (t : Instant) (nanos : Int) :
    t.plus? nanos = if (t + nanos).IsHeld then some (t + nanos) else none := rfl

lemma Timestamp.format?_utc_isSome (t : Instant) :
    (Timestamp.utc t).format?.isSome ↔ t.IsWritable := by
  have hparts : (Timestamp.utc t).localParts =
      (Date.ofDays (t / nanosPerDay), t % nanosPerDay) := by
    simp [Timestamp.localParts, Timestamp.utc]
  have hfirst : -719528 ≤ t / nanosPerDay ↔ firstWritable ≤ t :=
    Int.le_ediv_iff_mul_le (by decide)
  have hend : t / nanosPerDay < 2932897 ↔ t < endOfTime :=
    Int.ediv_lt_iff_lt_mul (by decide)
  rw [Timestamp.format?, hparts, Instant.IsWritable, ← hfirst, ← hend, ← Date.year_ofDays_nonneg,
    ← Date.year_ofDays_le]
  dsimp only
  split
  · rename_i h
    exact iff_of_true rfl h
  · rename_i h
    exact iff_of_false Bool.noConfusion h

lemma Timestamp.format?_utc_of_isWritable {t : Instant} (h : t.IsWritable) :
    ∃ text, (Timestamp.utc t).format? = some text :=
  Option.isSome_iff_exists.mp ((format?_utc_isSome t).mpr h)

lemma Timestamp.format?_utc_of_not_isWritable {t : Instant} (h : ¬ t.IsWritable) :
    (Timestamp.utc t).format? = none := by
  rw [← Option.not_isSome_iff_eq_none, format?_utc_isSome]
  exact h

end Time

namespace Device.SystemModule

variable {m m' : SystemModule} {env : Environment} {operation : String} {payload : Json}
  {effects : List Effect}

/-! ## What the module's clock shows -/

/-- The time that a state reports. -/
def reportedClock? (state : Json) : Option String :=
  state.get? "system-state" >>= Json.get? "clock" >>= Json.textField? "current-datetime"

lemma stateAt_of_isWritable (m : SystemModule) (env : Environment) {now : Time.Instant}
    (hn : now.IsWritable) (hb : m.bootTime.IsWritable) : ∃ state, m.stateAt env now = .ok state ∧
      reportedClock? state = (Time.Timestamp.utc now).format? := by
  obtain ⟨current, hcurrent⟩ := Time.Timestamp.format?_utc_of_isWritable hn
  obtain ⟨boot, hboot⟩ := Time.Timestamp.format?_utc_of_isWritable hb
  unfold stateAt
  rw [hcurrent, hboot]
  refine ⟨_, rfl, ?_⟩
  cases m.pendingAction <;>
    simp [reportedClock?, Json.single, Json.ofMembers, Json.get?, Json.member?,
      Json.member?_insertMember, Json.textField?, Json.text?]

lemma stateAt_of_not_isWritable (m : SystemModule) (env : Environment) {now : Time.Instant}
    (hn : ¬ now.IsWritable) : m.stateAt env now = .error "clock formatting failed: <detail>" := by
  unfold stateAt
  rw [Time.Timestamp.format?_utc_of_not_isWritable hn]

/-- The time that reading the state reports, if it succeeds. -/
def clockText? : Outcome (Except String Json) → Option String
  | .returned (.ok state) => reportedClock? state
  | _ => none

/-- Reading the state crashes, fails, or reports the clock, by what the clock shows then. -/
inductive Shows (shown : Time.Instant) : Outcome (Except String Json) → Prop
  | crash (out : ¬ shown.IsHeld) : Shows shown .crashed
  | failure (held : shown.IsHeld) (out : ¬ shown.IsWritable) :
      Shows shown (.returned (.error "clock formatting failed: <detail>"))
  | report (writable : shown.IsWritable) (state : Json)
      (reports : reportedClock? state = (Time.Timestamp.utc shown).format?) :
      Shows shown (.returned (.ok state))

lemma shows_state (m : SystemModule) (env : Environment) (hb : m.bootTime.IsWritable) :
    Shows (env.now + m.clockOffset) (DeviceModule.state env m).outcome := by
  simp only [DeviceModule.state, clock?, Time.Instant.plus?_eq]
  by_cases hheld : (env.now + m.clockOffset).IsHeld
  · rw [if_pos hheld]
    by_cases hwritable : (env.now + m.clockOffset).IsWritable
    · obtain ⟨state, hstate, hreports⟩ := m.stateAt_of_isWritable env hwritable hb
      dsimp only
      rw [hstate]
      exact .report hwritable state hreports
    · dsimp only
      rw [m.stateAt_of_not_isWritable env hwritable]
      exact .failure hheld hwritable
  · rw [if_neg hheld]
    exact .crash hheld

/-! ## Calls that leave the clock alone -/

/-- The response to a request to set the clock. -/
def setClock (m : SystemModule) (env : Environment) (session : SessionContext) (payload : Json) :
    Response SystemModule Rpc.Reply :=
  DeviceModule.execute env session "set-current-datetime" payload m

/-- A call that sets the clock. -/
def SetsClock (m : SystemModule) (q : Query) : Prop :=
  ∃ env session payload, q = .execute env session "set-current-datetime" payload ∧
    (m.setClock env session payload).outcome = .returned .ok

/-- Calls of which none sets the clock. -/
def KeepsClock (m : SystemModule) : List Query → Prop
  | [] => True
  | q :: rest => ¬ m.SetsClock q ∧ (m.serve q).1.KeepsClock rest

lemma Changes.bootTime_eq (h : Changes m env operation payload m' effects) :
    m'.bootTime = m.bootTime := by
  cases h <;> rfl

lemma Changes.clockOffset_eq (h : Changes m env operation payload m' effects)
    (ho : operation ≠ "set-current-datetime") : m'.clockOffset = m.clockOffset := by
  cases h with
  | clock text target called => exact absurd called ho
  | _ => rfl

lemma serve_bootTime (m : SystemModule) (q : Query) : (m.serve q).1.bootTime = m.bootTime := by
  rcases m.serve_cases q with hs | ⟨env, session, operation, payload, -, -, changes⟩
  · rw [hs]
  · exact changes.bootTime_eq

lemma serve_clockOffset {q : Query} (h : ¬ m.SetsClock q) :
    (m.serve q).1.clockOffset = m.clockOffset := by
  rcases m.serve_cases q with hs | ⟨env, session, operation, payload, rfl, hok, changes⟩
  · rw [hs]
  · refine changes.clockOffset_eq ?_
    rintro rfl
    exact h ⟨env, session, payload, rfl, hok⟩

lemma after_bootTime (m : SystemModule) (queries : List Query) :
    (m.after queries).bootTime = m.bootTime := by
  induction queries generalizing m with
  | nil => rfl
  | cons q rest ih => exact (ih _).trans (m.serve_bootTime q)

lemma KeepsClock.clockOffset_eq {queries : List Query} (h : m.KeepsClock queries) :
    (m.after queries).clockOffset = m.clockOffset := by
  induction queries generalizing m with
  | nil => rfl
  | cons q rest ih => exact (ih h.2).trans (serve_clockOffset h.1)

/-- A setting that is accepted names the instant that the clock shows from then on. -/
lemma setClock_accepted {session : SessionContext}
    (h : (m.setClock env session payload).outcome = .returned .ok) :
    ∃ text target, requiredText payload "current-datetime" = .ok text ∧
      Time.Timestamp.parse? text.toList = some target ∧
      (m.setClock env session payload).module =
        { m with clockOffset := target.instant - env.now } := by
  have hexecutes := m.executes_execute env "set-current-datetime" payload
  change (m.execute env "set-current-datetime" payload).outcome = _ at h
  change ∃ text target, _ ∧ _ ∧ (m.execute env "set-current-datetime" payload).module = _
  generalize m.execute env "set-current-datetime" payload = response at hexecutes h
  cases hexecutes with
  | reads | fails => cases h
  | changes m' effects made =>
    cases made with
    | clock text target called free given read => exact ⟨text, target, given, read, rfl⟩
    | power action called => cases action <;> exact absurd called (by decide)
    | hostname _ called | timezone _ called | stays called | toggles _ called | adds _ _ called
    | removes _ called => exact absurd called (by decide)

/-- A clock that was set shows the instant that it was set to and the time that has passed since,
as long as that instant can be written: before year 0 reading the state fails, and outside the dates
that can be held it crashes. -/
theorem clock_since_setting (m₀ : SystemModule) (env₀ : Environment) (identity : Identity)
    (hboot : Time.Instant.IsWritable env₀.now) (before : List Query) (m : SystemModule)
    (hm : (DeviceModule.init env₀ identity m₀).module.after before = m) (env : Environment)
    (session : SessionContext) (payload : Json)
    (hset : (m.setClock env session payload).outcome = .returned .ok) (later : List Query)
    (hkeep : (m.setClock env session payload).module.KeepsClock later) (env' : Environment) :
    ∃ text target, requiredText payload "current-datetime" = .ok text ∧
      Time.Timestamp.parse? text.toList = some target ∧
      Shows (target.instant + (env'.now - env.now))
        (DeviceModule.state env' ((m.setClock env session payload).module.after later)).outcome := by
  obtain ⟨text, target, given, read, hmodule⟩ := setClock_accepted hset
  refine ⟨text, target, given, read, ?_⟩
  have hoffset := hkeep.clockOffset_eq
  have htime := after_bootTime (m.setClock env session payload).module later
  generalize (m.setClock env session payload).module.after later = m' at hoffset htime ⊢
  rw [hmodule] at hoffset htime
  have hbooted : m'.bootTime = env₀.now := by
    rw [htime, ← hm]
    exact after_bootTime _ before
  have hshown : env'.now + m'.clockOffset = target.instant + (env'.now - env.now) := by
    rw [hoffset]
    exact Int.add_left_comm env'.now target.instant (-env.now)
  rw [← hshown]
  exact m'.shows_state env' (by rw [hbooted]; exact hboot)

/-- The clock is set, a restart is scheduled, and the state is read a second later. -/
theorem clock_since_setting_second :
    let m := opened.after [.calm "set-hostname" (.string "edge1")]
    let payload := Json.single "current-datetime" (.string "2001-02-03T04:05:06.5+01:00")
    let set := m.setClock .calm ⟨"1", "admin", .empty⟩ payload
    let later := [Query.calm "system-restart" .null]
    let read := DeviceModule.state { Environment.calm with now := 1000000000 }
      (set.module.after later)
    Time.Instant.IsWritable Environment.calm.now ∧ set.outcome = .returned .ok ∧
      set.module.KeepsClock later ∧
      (∃ text target, requiredText payload "current-datetime" = .ok text ∧
        Time.Timestamp.parse? text.toList = some target ∧
        Shows (target.instant + (1000000000 - Environment.calm.now)) read.outcome) ∧
      clockText? read.outcome = some "2001-02-03T03:05:07.5Z" := by
  intro m payload set later read
  have hkeep : set.module.KeepsClock later := by
    refine ⟨?_, trivial⟩
    rintro ⟨env, session, payload, hq, -⟩
    exact absurd (Query.execute.inj hq).2.2.1 (by decide)
  exact ⟨by decide, rfl, hkeep, clock_since_setting (ofHostname "localhost") .calm
    ⟨⟨0⟩, "system", none⟩ (by decide) [.calm "set-hostname" (.string "edge1")] m rfl .calm
    ⟨"1", "admin", .empty⟩ payload rfl later hkeep { Environment.calm with now := 1000000000 },
    by decide +kernel⟩

/-- The clock is set to the last instant that can be held. Reading the state a nanosecond later
crashes, and the module is not called any more, not even for its configuration. -/
theorem last_instant_fences_module :
    let descriptor : Descriptor :=
      ⟨"system", ⟨[systemCapability]⟩, systemOperations, none, true⟩
    let session : SessionContext := ⟨"1", "admin", ⟨[systemCapability]⟩⟩
    let payload := Json.string "9999-12-31T23:59:59.999999999Z"
    let later := { Environment.calm with now := 1 }
    let added := Registry.add .calm descriptor (ofHostname "localhost") .empty
    let set := Registry.execute .calm ⟨⟨0⟩, descriptor⟩ session "set-current-datetime" payload
      added.state
    let read := Registry.stateData later ⟨⟨0⟩, descriptor⟩ set.state
    let config := Registry.execute later ⟨⟨0⟩, descriptor⟩ session "get-config" .null read.state
    (set.value == .ok) = true ∧ read.state.instances.map (·.hasCrashed) = [true] ∧
      (config.value == Registry.unavailable ⟨⟨0⟩, descriptor⟩) = true ∧
      ¬ ∀ (queries : List Query) (env env' : Environment) (payload : Json),
        Time.Instant.IsWritable env.now → Time.Instant.IsWritable env'.now → env.now ≤ env'.now →
          ((opened.after queries).setClock env session payload).outcome = .returned .ok →
            (clockText? (DeviceModule.state env'
              ((opened.after queries).setClock env session payload).module).outcome).isSome := by
  intro descriptor session payload later added set read config
  refine ⟨by decide +kernel, by decide +kernel, by decide +kernel, ?_⟩
  intro hall
  have hread := hall [] .calm later payload (by decide) (by decide) (by decide) rfl
  exact absurd hread (by decide +kernel)

end Device.SystemModule

end ManagementServer
