import CatalogueEditor.Editor.Settings
import CatalogueEditor.Proofs.Repetition

/-!
The numbers of repeated attempts. They are computed on words, and what is logged and waited for is compared
here with the numbers they stand for. Pauses are exact however many attempts were made. Attempts are counted
exactly as long as one more than the allowed repetitions is still a word, which leaves out one configuration
only: there the number of all attempts comes out as none.
-/

namespace CatalogueEditor

namespace Client

/-- What is logged of an attempt that is repeated, by numbers: which of how many attempts it was, and the pause
behind it in milliseconds. -/
def repetition (operation : Operation) (number total pause : Nat) (cause : RequestError) : LogLine :=
  ⟨.warn, "[" ++ operation.name ++ "] Request failed (attempt " ++ toString number ++ "/" ++
    toString total ++ "), retrying in " ++
    (toString (pause / 1000) ++ "." ++ toString (pause % 1000 / 100)) ++ "s: " ++ cause.message⟩

/-- The pause behind an attempt is computed without overflow, from the shift on. -/
structure PausesExactly (number : UInt32) : Prop where
  doublings : (min number 16).toUInt64.toNat = min number.toNat 16
  shift : ((1 : UInt64) <<< (min number 16).toUInt64).toNat = 2 ^ min number.toNat 16
  product : (100 * ((1 : UInt64) <<< (min number 16).toUInt64)).toNat = 100 * 2 ^ min number.toNat 16
  pause : (wait number).toNat = min (100 * 2 ^ number.toNat) 5000

/-- An attempt and all attempts are counted without overflow, and it is none after the last one. -/
structure CountsExactly (number maxRetries : UInt32) : Prop where
  own : (attemptCount number maxRetries).1.toNat = number.toNat + 1
  total : (attemptCount number maxRetries).2.toNat = maxRetries.toNat + 1
  positive : 1 ≤ (attemptCount number maxRetries).1
  before : (attemptCount number maxRetries).1 < (attemptCount number maxRetries).2

/-- Every computation of the run for an attempt that it repeated is exact: so are its pauses, and the lines
that it logged. -/
structure Run.Counted (run : Run) (operation : Operation) (maxRetries : UInt32) : Prop where
  reached : run.failures.length ≤ maxRetries.toNat
  exact : ∀ number : UInt32, number.toNat < run.failures.length →
    PausesExactly number ∧ CountsExactly number maxRetries
  waits : run.waits.map UInt64.toNat =
    (List.range run.failures.length).map fun number => min (100 * 2 ^ number) 5000
  lines : run.log.filter (·.level = .warn) = run.failures.zipIdx.map fun failure =>
    repetition operation (failure.2 + 1) (maxRetries.toNat + 1) (min (100 * 2 ^ failure.2) 5000) failure.1

/-! One attempt. -/

theorem ofNat_toNat {number : Nat} {maxRetries : UInt32} (early : number < maxRetries.toNat) :
    (UInt32.ofNat number).toNat = number :=
  UInt32.toNat_ofNat_of_lt' (Nat.lt_trans early maxRetries.toNat_lt_size)

theorem pausesExactly (number : UInt32) : PausesExactly number := by
  have doublings : (min number 16).toUInt64.toNat = min number.toNat 16 := by
    rw [UInt32.toNat_toUInt64, min_toNat]
  have table : ∀ count ≤ 16, 1 <<< (count % 64) % 2 ^ 64 = 2 ^ count ∧ 100 * 2 ^ count < 2 ^ 64 := by decide
  obtain ⟨power, fits⟩ := table (min number.toNat 16) (Nat.min_le_right _ _)
  have shift : ((1 : UInt64) <<< (min number 16).toUInt64).toNat = 2 ^ min number.toNat 16 := by
    rw [UInt64.toNat_shiftLeft, doublings]
    exact power
  refine ⟨doublings, shift, ?_, wait_toNat number⟩
  rw [UInt64.toNat_mul, shift]
  exact Nat.mod_eq_of_lt fits

theorem countsExactly_iff {number maxRetries : UInt32} (early : number.toNat < maxRetries.toNat) :
    CountsExactly number maxRetries ↔ maxRetries.toNat + 1 < UInt32.size := by
  constructor
  · intro counts
    have total := (attemptCount number maxRetries).2.toNat_lt_size
    rwa [counts.total] at total
  · intro fits
    have own : (attemptCount number maxRetries).1.toNat = number.toNat + 1 :=
      succ_toNat (Nat.lt_trans (Nat.succ_lt_succ early) fits)
    have total : (attemptCount number maxRetries).2.toNat = maxRetries.toNat + 1 := succ_toNat fits
    refine ⟨own, total, UInt32.le_iff_toNat_le.mpr ?_, UInt32.lt_iff_toNat_lt.mpr ?_⟩
    · exact own ▸ Nat.le_add_left 1 number.toNat
    · rw [own, total]
      exact Nat.succ_lt_succ early

theorem retryLine_exact {number maxRetries : UInt32} (operation : Operation) (cause : RequestError)
    (counts : CountsExactly number maxRetries) : retryLine operation number maxRetries cause =
      repetition operation (number.toNat + 1) (maxRetries.toNat + 1) (min (100 * 2 ^ number.toNat) 5000)
        cause := by
  have seconds : inSeconds (wait number) =
      toString ((wait number).toNat / 1000) ++ "." ++ toString ((wait number).toNat % 1000 / 100) := rfl
  rw [repetition, ← counts.own, ← counts.total, ← wait_toNat, ← seconds]
  rfl

/-! The lines of a run. -/

theorem attempt_unwarned (operation : Operation) (address : String) (request : Except UrlProblem Request)
    (endpoint : Endpoint) :
    (attempt operation address request endpoint).log.filter (·.level = .warn) = [] := by
  unfold attempt
  split
  · rfl
  · split
    · rfl
    · simp only [responseLog]
      split <;> rfl

theorem repeated_warnings (operation : Operation) {act : Endpoint → Attempt} (maxRetries : UInt32)
    (unwarned : ∀ endpoint, (act endpoint).log.filter (·.level = .warn) = []) (left : Nat)
    (number : UInt32) (endpoint : Endpoint) (fits : number.toNat + left < UInt32.size) :
    let run := repeated operation maxRetries act left number endpoint
    run.log.filter (·.level = .warn) = (run.failures.zipIdx number.toNat).map fun failure =>
      retryLine operation (UInt32.ofNat failure.2) maxRetries failure.1 := by
  have words : UInt32.size = 2 ^ 32 := rfl
  induction left generalizing number endpoint with
  | zero => exact unwarned endpoint
  | succ left ih =>
      simp only [repeated]
      split
      · exact unwarned endpoint
      · rename_i cause failed
        split
        · -- The word that numbers the attempts goes on counting them, as few as are left.
          have next := @succ_toNat number (by omega)
          have rest := ih (number + 1) (act endpoint).endpoint (by omega)
          have warned : (retryLine operation number maxRetries cause).level = .warn := rfl
          simp only [Run.logged, Run.behind, List.filter_append, unwarned, rest, next, List.nil_append,
            List.zipIdx_cons, List.map_cons, UInt32.ofNat_toNat, List.filter_cons, warned, decide_true,
            if_true, List.filter_nil, List.singleton_append]
        · exact unwarned endpoint

theorem perform_warnings {config : EndpointConfig} {call : Call} {request : Request}
    (addressed : call.request config = .ok request) (endpoint : Endpoint) :
    (perform config call endpoint).log.filter (·.level = .warn) =
      (perform config call endpoint).failures.zipIdx.map fun failure =>
        retryLine call.operation (UInt32.ofNat failure.2) config.maxRetries failure.1 := by
  have unwarned := attempt_unwarned call.operation (config.address call.operation) (.ok request)
  have warnings := repeated_warnings call.operation config.maxRetries unwarned config.maxRetries.toNat 0
    endpoint (by simpa using config.maxRetries.toNat_lt_size)
  simp only [perform, addressed]
  exact warnings

/-- The pauses of a call are exact, and it repeats no more attempts than are allowed. -/
theorem perform_paused {config : EndpointConfig} {call : Call} {request : Request}
    (addressed : call.request config = .ok request) (endpoint : Endpoint) :
    let run := perform config call endpoint
    run.failures.length ≤ config.maxRetries.toNat ∧
      run.waits.map UInt64.toNat =
        (List.range run.failures.length).map fun number => min (100 * 2 ^ number) 5000 := by
  intro run
  obtain ⟨last, repeats, _⟩ := perform_addressed addressed endpoint
  have attempts : run.endings.length = last + 1 := repeats.attempts
  have repeated : run.failures.length = last := by simpa [Run.endings] using attempts
  rw [repeated]
  exact ⟨repeats.bound, repeats.waits⟩

/-- Of any run whose pauses are exact and whose lines were logged attempt by attempt, counting is what is
left to be said. -/
theorem Run.counted_iff {run : Run} {operation : Operation} {maxRetries : UInt32}
    (reached : run.failures.length ≤ maxRetries.toNat)
    (waits : run.waits.map UInt64.toNat =
      (List.range run.failures.length).map fun number => min (100 * 2 ^ number) 5000)
    (warnings : run.log.filter (·.level = .warn) = run.failures.zipIdx.map fun failure =>
      retryLine operation (UInt32.ofNat failure.2) maxRetries failure.1) :
    run.Counted operation maxRetries ↔ maxRetries.toNat + 1 < UInt32.size ∨ run.failures = [] := by
  constructor
  · intro counted
    refine or_iff_not_imp_right.mpr fun some => ?_
    have first : (0 : UInt32).toNat < run.failures.length := List.length_pos_iff.mpr some
    exact (countsExactly_iff (Nat.lt_of_lt_of_le first reached)).mp (counted.exact 0 first).2
  · intro fits
    have exact : ∀ number : UInt32, number.toNat < run.failures.length →
        PausesExactly number ∧ CountsExactly number maxRetries := by
      intro number before
      refine ⟨pausesExactly number, (countsExactly_iff (Nat.lt_of_lt_of_le before reached)).mpr ?_⟩
      exact fits.resolve_right (List.ne_nil_of_length_pos (Nat.zero_lt_of_lt before))
    refine ⟨reached, exact, waits, warnings.trans (List.map_congr_left fun failure member => ?_)⟩
    have before : failure.2 < run.failures.length := by
      simpa using List.snd_lt_of_mem_zipIdx member
    have word := ofNat_toNat (Nat.lt_of_lt_of_le before reached)
    have counts := (exact (UInt32.ofNat failure.2) (by rwa [word])).2
    rw [retryLine_exact operation failure.1 counts, word]

theorem perform_counted_iff {config : EndpointConfig} {call : Call} {request : Request}
    (addressed : call.request config = .ok request) (endpoint : Endpoint) :
    let run := perform config call endpoint
    run.Counted call.operation config.maxRetries ↔
      config.maxRetries.toNat + 1 < UInt32.size ∨ run.failures = [] := by
  obtain ⟨reached, waits⟩ := perform_paused addressed endpoint
  exact Run.counted_iff reached waits (perform_warnings addressed endpoint)

/-- A call that repeats attempts counts them exactly unless one more than the allowed repetitions is no word.
Pauses are exact in any case, and a call whose address cannot be read repeats nothing. -/
theorem attempts_counted_iff (config : EndpointConfig) (call : Call) (endpoint : Endpoint) :
    let run := perform config call endpoint
    (∀ number, PausesExactly number) ∧
    (∀ request, call.request config = .ok request →
      (run.Counted call.operation config.maxRetries ↔
        config.maxRetries.toNat + 1 < UInt32.size ∨ run.failures = [])) ∧
    (∀ problem, call.request config = .error problem → run.failures = [] ∧ run.waits = []) := by
  intro run
  refine ⟨pausesExactly, fun request addressed => perform_counted_iff addressed endpoint, ?_⟩
  intro problem unaddressed
  obtain ⟨endings, waits, _⟩ := perform_unaddressed unaddressed endpoint
  have attempts := congrArg List.length endings
  exact ⟨List.eq_nil_of_length_eq_zero (by simpa [Run.endings] using attempts), waits⟩

/-- The second of three attempts, numbered so in the log. -/
theorem second_attempt_counted :
    let config : EndpointConfig := { EndpointConfig.ofBase "http://[::1]/xmlui" "CAT" with maxRetries := 2 }
    let endpoint : Endpoint :=
      ⟨true, [.response ⟨503, [], false, none⟩, .closed, .response ⟨200, [], false, none⟩], []⟩
    let run := perform config (.save "k" "v") endpoint
    (∃ request, Call.request config (.save "k" "v") = .ok request) ∧ run.Counted .save 2 ∧
      run.log.filter (·.level = .warn) =
        [⟨.warn, "[save] Request failed (attempt 1/3), retrying in 0.1s: [save] HTTP 503"⟩,
         ⟨.warn, "[save] Request failed (attempt 2/3), retrying in 0.2s: [save] Network error: " ++
          Fault.closed.message⟩] := by
  intro config endpoint run
  have addressed : (Call.request config (.save "k" "v")).isOk := by decide +kernel
  obtain ⟨request, made⟩ := exists_ok_of_isOk addressed
  obtain ⟨_, counted, _⟩ := attempts_counted_iff config (.save "k" "v") endpoint
  refine ⟨⟨request, made⟩, (counted request made).mpr (.inl (by decide)), ?_⟩
  decide +kernel

/-- With the largest number of repetitions that settings can give, the number of all attempts is told as
none. -/
theorem largest_total_wraps :
    let text := "\x7b\"base_path\":\"http://[::1]/xmlui\",\"max_retries\":4294967295\x7d"
    let endpoint : Endpoint := ⟨true, [.response ⟨503, [], false, none⟩], []⟩
    ∃ settings, Settings.ofJson text = .ok settings ∧
      let config := settings.endpoint "CAT"
      let run := perform config (.save "k" "v") endpoint
      config.check = .ok () ∧ run.ending = .ok () ∧ attemptCount 0 config.maxRetries = (1, 0) ∧
      run.log.filter (·.level = .warn) =
        [⟨.warn, "[save] Request failed (attempt 1/0), retrying in 0.1s: [save] HTTP 503"⟩] ∧
      ¬ run.Counted .save config.maxRetries := by
  intro text endpoint
  have read : (Settings.ofJson text).toOption = some ⟨"http://[::1]/xmlui", 10, none, 4294967295⟩ := by
    decide +kernel
  refine ⟨⟨"http://[::1]/xmlui", 10, none, 4294967295⟩, ?_, ?_⟩
  · cases result : Settings.ofJson text with
    | error failure => simp [result, Except.toOption] at read
    | ok settings => simpa [result, Except.toOption] using read
  intro config run
  have valid : config.check.isOk := by decide +kernel
  have fine : run.ending.isOk := by decide +kernel
  have addressed : (Call.request config (.save "k" "v")).isOk := by decide +kernel
  have repeats : run.failures.length = 1 := by decide +kernel
  refine ⟨eq_ok_of_isOk valid, eq_ok_of_isOk fine, by decide, by decide +kernel, fun counted => ?_⟩
  obtain ⟨request, made⟩ := exists_ok_of_isOk addressed
  obtain fits | unrepeated := (perform_counted_iff made endpoint).mp counted
  · exact absurd fits (by decide)
  · exact absurd (repeats.symm.trans (congrArg List.length unrepeated)) (by decide)

end Client
end CatalogueEditor
