import CatalogueEditor.Endpoint.Client
import CatalogueEditor.Proofs.CheckedContent
import CatalogueEditor.Proofs.LogTexts

/-!
The log of a call. Each line is on one line and has a bound, up to the key or the address that it names
and up to what the transport said about a failure; neither the value nor a body adds to it.
-/

namespace CatalogueEditor

open Text

/-- The text is short, up to a text of the transport at its end. -/
def Text.Saying (limit : Nat) (transport : List String) (text : String) : Prop :=
  ∃ own foreign, text = own ++ foreign ∧ Short limit own ∧ (foreign = "" ∨ foreign ∈ transport)

/-- The line has no line break and no more characters than the limit and the one of the names that stands
in it, up to a text of the transport at its end. -/
def LogLine.Fits (limit : Nat) (names transport : List String) (line : LogLine) : Prop :=
  ∃ own name foreign, line.text = own ++ foreign ∧ Short (limit + name.length) own ∧
    (name = "" ∨ name ∈ names ∧ Repeats own name) ∧ (foreign = "" ∨ foreign ∈ transport)

section Lines
variable {limit other : Nat} {names transport : List String} {text front name : String} {line : LogLine}

namespace Text

theorem Short.saying (short : Short limit text) : Saying limit transport text :=
  ⟨text, "", (String.append_empty).symm, short, .inl rfl⟩

theorem Saying.behind (saying : Saying limit transport text) (opening : Short other front) :
    Saying (other + limit) transport (front ++ text) := by
  obtain ⟨own, foreign, rfl, short, said⟩ := saying
  exact ⟨front ++ own, foreign, String.append_assoc.symm, opening.append short, said⟩

theorem Saying.mono (saying : Saying limit transport text) (within : limit ≤ other) :
    Saying other transport text := by
  obtain ⟨own, foreign, same, short, said⟩ := saying
  exact ⟨own, foreign, same, short.mono within, said⟩

end Text

namespace LogLine

theorem fits_of_saying (saying : Saying limit transport line.text) : line.Fits limit names transport := by
  obtain ⟨own, foreign, same, short, said⟩ := saying
  exact ⟨own, "", foreign, same, short, .inl rfl, said⟩

theorem fits_of_short (short : Short limit line.text) : line.Fits limit names transport :=
  fits_of_saying short.saying

theorem fits_of_named (same : line.text = front ++ name ++ text) (opening : Short other front)
    (member : name ∈ names) (named : OneLine name) (saying : Saying limit transport text) :
    line.Fits (other + limit) names transport := by
  obtain ⟨own, foreign, rfl, short, said⟩ := saying
  refine ⟨front ++ name ++ own, name, foreign, ?_, ?_, .inr ⟨member, front, own, rfl⟩, said⟩
  · simp only [same, String.append_assoc]
  · exact ((opening.append (.of_oneLine named)).append short).mono (by omega)

theorem Fits.mono (fits : line.Fits limit names transport) (within : limit ≤ other) :
    line.Fits other names transport := by
  obtain ⟨own, name, foreign, same, short, named, said⟩ := fits
  exact ⟨own, name, foreign, same, short.mono (by omega), named, said⟩

theorem Fits.of_subset {more heard : List String} (fits : line.Fits limit names transport)
    (named : names ⊆ more) (said : transport ⊆ heard) : line.Fits limit more heard := by
  obtain ⟨own, name, foreign, same, short, holds, ends⟩ := fits
  exact ⟨own, name, foreign, same, short, holds.imp_right fun both => ⟨named both.1, both.2⟩,
    ends.imp_right fun member => said member⟩

end LogLine
end Lines

theorem Operation.name_short (operation : Operation) : Short 10 operation.name := by
  cases operation <;> exact .of_chars rfl (by decide)

theorem Status.short_number (status : UInt16) : Short 20 (toString status) := by
  have bound := status.toNat_lt
  exact short_nat (n := status.toNat) (by omega)

theorem Status.short_display (status : UInt16) : Short 100 (display status) := by
  have known : ∀ entry ∈ phrases, Short 60 entry.2 := by
    have fits : phrases.all (fun entry =>
        entry.2.toList.all (!isLineBreak ·) && entry.2.toList.length ≤ 60) = true := by decide +kernel
    intro entry member
    exact .of_chars String.ofList_toList.symm (List.all_eq_true.mp fits entry member)
  have phrase : Short 60 ((phrases.lookup status).getD "<unknown status code>") := by
    cases found : phrases.lookup status with
    | none => exact .of_chars rfl (by decide)
    | some phrase =>
        obtain ⟨_, _, whole, _⟩ := List.lookup_eq_some_iff.mp found
        exact known (status, phrase) (by simp [whole])
  have space : Short 1 " " := .of_chars rfl (by decide)
  exact (((short_number status).append space).append phrase).mono (by omega)

namespace RequestError

/-- What the transport said about the failure. -/
def transport? : RequestError → Option String
  | network _ detail => some detail
  | timeout _ detail => some detail
  | _ => none

/-- A failure that a call may end with: it names an operation, and a body that was read. -/
inductive Reported : RequestError → Prop
  | network (operation : Operation) (detail : String) : Reported (.network operation.name detail)
  | timeout (operation : Operation) (detail : String) : Reported (.timeout operation.name detail)
  | answered (operation : Operation) (status : UInt16) (body : Option String)
      (fits : ∀ text ∈ body, InMemory text) : Reported (.answered operation.name status body)

/-- The message of a failure is short, whatever the body was. -/
theorem message_saying {cause : RequestError} (reported : cause.Reported) :
    Saying 300 cause.transport?.toList cause.message := by
  have bracket : Short 1 "[" := .of_chars rfl (by decide)
  cases reported with
  | network operation detail =>
      have middle : Short 20 "] Network error: " := .of_chars rfl (by decide)
      have own := (bracket.append operation.name_short).append middle
      exact ⟨_, detail, rfl, own.mono (by omega), .inr (List.mem_singleton.mpr rfl)⟩
  | timeout operation detail =>
      have middle : Short 20 "] Request timeout: " := .of_chars rfl (by decide)
      have own := (bracket.append operation.name_short).append middle
      exact ⟨_, detail, rfl, own.mono (by omega), .inr (List.mem_singleton.mpr rfl)⟩
  | answered operation status body fits =>
      have middle : Short 10 "] HTTP " := .of_chars rfl (by decide)
      have own := ((bracket.append operation.name_short).append middle).append
        (Status.short_number status)
      have nothing : Short 202 "" := .of_chars rfl (by decide)
      have colon : Short 2 ": " := .of_chars rfl (by decide)
      cases body with
      | none => exact ((own.append nothing).mono (by omega)).saying
      | some text =>
          have shown : Short 202 (if text = "" then "" else ": " ++ summarize text) := by
            split
            · exact nothing
            · exact colon.append (short_summarize (fits text rfl))
          exact ((own.append shown).mono (by omega)).saying

end RequestError

/-! Bodies that fit in memory. -/

def Delivery.InMemory : Delivery → Prop
  | .response answer => Text.InMemory answer.text
  | _ => True

/-- Every body of the script fits in memory. -/
def Endpoint.InMemory (endpoint : Endpoint) : Prop :=
  ∀ delivery ∈ endpoint.script, delivery.InMemory

namespace Endpoint

variable {endpoint next : Endpoint} {request : Request} {delivery? : Option Delivery}

theorem fine_inMemory : fine.InMemory := by
  have size : utf8Length (String.ofList (ofUtf8 [])).toList < 2 ^ 63 := by decide +kernel
  exact size

theorem InMemory.take (fits : endpoint.InMemory) (taken : endpoint.take request = (delivery?, next)) :
    (∀ delivery ∈ delivery?, delivery.InMemory) ∧ next.InMemory := by
  unfold Endpoint.take at taken
  split at taken
  · cases taken
    constructor
    · rintro delivery ⟨⟩
      cases first : endpoint.script.head? with
      | none => exact fine_inMemory
      | some delivery => exact fits delivery (List.mem_of_mem_head? first)
    · exact fun delivery member => fits delivery (List.mem_of_mem_tail member)
  · cases taken
    refine ⟨?_, fits⟩
    rintro delivery ⟨⟩

theorem InMemory.sendWithin (fits : endpoint.InMemory) (limit : Nat) (request : Request) :
    (∀ response, (endpoint.sendWithin limit request).1 = .ok response → Text.InMemory response.text) ∧
      (endpoint.sendWithin limit request).2.InMemory := by
  fun_induction Endpoint.sendWithin limit request endpoint with
  | case4 limit request endpoint response next taken =>
      obtain ⟨delivered, kept⟩ := fits.take taken
      exact ⟨fun response same => Except.ok.inj same ▸ delivered _ rfl, kept⟩
  | case6 request endpoint response next taken further limit named web ih =>
      exact ih (fits.take taken).2
  | case1 _ _ _ _ taken | case2 _ _ _ _ taken | case3 _ _ _ _ taken
  | case5 _ _ _ _ taken | case7 _ _ _ _ taken =>
      refine ⟨?_, (fits.take taken).2⟩
      rintro response ⟨⟩

end Endpoint

/-! Attempts. -/

namespace Client

variable {operation : Operation} {names heard : List String} {endpoint : Endpoint}

/-- What an attempt on an address logs and leaves behind. -/
structure Attempt.Tidy (address : String) (attempt : Attempt) : Prop where
  log : ∀ line ∈ attempt.log, line.Fits 500 [address] []
  reported : ∀ cause, attempt.ending = .error cause → cause.Reported
  endpoint : attempt.endpoint.InMemory

theorem short_bracket (operation : Operation) : Short 20 ("[" ++ operation.name ++ "] ") := by
  have opening : Short 1 "[" := .of_chars rfl (by decide)
  have closing : Short 2 "] " := .of_chars rfl (by decide)
  exact ((opening.append operation.name_short).append closing).mono (by omega)

theorem short_requestMark : Short 20 requestMark :=
  .of_chars rfl (by decide)

theorem post_fits {address : String} (line : OneLine address) :
    (debug operation ("POST " ++ address)).Fits 500 [address] [] := by
  have post : Short 5 "POST " := .of_chars rfl (by decide)
  have same : (debug operation ("POST " ++ address)).text =
      ("[" ++ operation.name ++ "] " ++ "POST ") ++ address ++ requestMark := by
    simp only [debug, String.append_assoc]
  exact (LogLine.fits_of_named same ((short_bracket operation).append post) List.mem_cons_self line
    short_requestMark.saying).mono (by omega)

theorem debug_fits {text : String} (short : Short 300 text) :
    (debug operation text).Fits 500 names heard :=
  LogLine.fits_of_short ((((short_bracket operation).append short).append short_requestMark).mono
    (by omega))

theorem responseLog_fits {response : Response} (fits : InMemory response.text) :
    ∀ line ∈ responseLog operation response, line.Fits 500 names heard := by
  have status : Short 20 "Response Status: " := .of_chars rfl (by decide)
  have body : Short 20 "Response Body: " := .of_chars rfl (by decide)
  refine List.forall_mem_cons.mpr ⟨?_, ?_⟩
  · exact debug_fits ((status.append (Status.short_display response.status)).mono (by omega))
  · split
    · exact List.forall_mem_nil _
    · refine List.forall_mem_cons.mpr ⟨?_, List.forall_mem_nil _⟩
      exact debug_fits ((body.append (short_summarize fits)).mono (by omega))

theorem ofFault_reported (operation : Operation) (fault : Fault) : (ofFault operation fault).Reported := by
  cases fault with
  | silent => exact .timeout operation _
  | _ => exact .network operation _

theorem ending_reported {response : Response} (fits : InMemory response.text) {cause : RequestError}
    (failed : ending operation response = .error cause) : cause.Reported := by
  unfold ending at failed
  split at failed
  · cases failed
  · cases failed
    refine .answered operation response.status _ fun text shown => ?_
    split at shown
    · cases shown
    · cases shown
      exact fits

theorem attempt_tidy {address : String} (line : OneLine address) (request : Except UrlProblem Request)
    (fits : endpoint.InMemory) : (attempt operation address request endpoint).Tidy address := by
  have sent : (debug operation ("POST " ++ address)).Fits 500 [address] [] := post_fits line
  unfold attempt
  cases request with
  | error =>
      refine ⟨List.forall_mem_cons.mpr ⟨sent, List.forall_mem_nil _⟩, ?_, fits⟩
      rintro cause ⟨⟩
      exact ofFault_reported operation .badAddress
  | ok request =>
      obtain ⟨delivered, kept⟩ := fits.sendWithin Endpoint.redirectLimit request
      simp only [Endpoint.send]
      split
      · rename_i fault next came
        rw [came] at kept
        refine ⟨List.forall_mem_cons.mpr ⟨sent, List.forall_mem_nil _⟩, ?_, kept⟩
        rintro cause ⟨⟩
        exact ofFault_reported operation fault
      · rename_i response next came
        rw [came] at kept
        have body := delivered response (congrArg Prod.fst came)
        exact ⟨List.forall_mem_cons.mpr ⟨sent, responseLog_fits body⟩,
          fun cause failed => ending_reported body failed, kept⟩

/-! Repetition. -/

/-- What the transport said about the failures that the run repeated. -/
def Run.transport (run : Run) : List String :=
  run.failures.filterMap RequestError.transport?

/-- What a run of attempts logs and how it ends. -/
structure Run.Tidy (names : List String) (run : Run) : Prop where
  log : ∀ line ∈ run.log, line.Fits 600 names run.transport
  reported : ∀ cause, run.ending = .error cause → cause.Reported

theorem short_count (n : UInt32) : Short 20 (toString n) := by
  have bound := n.toNat_lt
  exact short_nat (n := n.toNat) (by omega)

theorem short_inSeconds (milliseconds : UInt64) : Short 50 (inSeconds milliseconds) := by
  have point : Short 1 "." := .of_chars rfl (by decide)
  have number : ∀ n : UInt64, Short 20 (toString n) := fun n => short_nat n.toNat_lt
  exact (((number _).append point).append (number _)).mono (by omega)

theorem retryLine_fits (attempt maxRetries : UInt32) {cause : RequestError} (reported : cause.Reported) :
    (retryLine operation attempt maxRetries cause).Fits 600 names cause.transport?.toList := by
  have bracket : Short 1 "[" := .of_chars rfl (by decide)
  have failed : Short 30 "] Request failed (attempt " := .of_chars rfl (by decide)
  have slash : Short 1 "/" := .of_chars rfl (by decide)
  have waiting : Short 30 "), retrying in " := .of_chars rfl (by decide)
  have seconds : Short 3 "s: " := .of_chars rfl (by decide)
  have opening := ((((((((bracket.append operation.name_short).append failed).append
    (short_count (attemptCount attempt maxRetries).1)).append slash).append
      (short_count (attemptCount attempt maxRetries).2)).append waiting).append
        (short_inSeconds (wait attempt))).append seconds)
  exact LogLine.fits_of_saying (((RequestError.message_saying reported).behind opening).mono (by omega))

theorem Attempt.Tidy.run {address : String} {attempt : Attempt} (tidy : attempt.Tidy address) :
    (Run.ofAttempt attempt).Tidy [address] :=
  ⟨fun line member => (tidy.log line member).mono (by omega), tidy.reported⟩

theorem Run.Tidy.logged {run : Run} (tidy : run.Tidy names) {lines : List LogLine}
    (fits : ∀ line ∈ lines, line.Fits 600 names []) : (run.logged lines).Tidy names := by
  refine ⟨fun line member => ?_, tidy.reported⟩
  rcases List.mem_append.mp member with front | back
  · exact (fits line front).of_subset (List.Subset.refl _) (List.nil_subset _)
  · exact tidy.log line back

theorem Run.Tidy.of_subset {run : Run} {more : List String} (tidy : run.Tidy names)
    (named : names ⊆ more) : run.Tidy more :=
  ⟨fun line member => (tidy.log line member).of_subset named (List.Subset.refl _), tidy.reported⟩

theorem repeated_tidy {address : String} {act : Endpoint → Attempt} (retries : UInt32)
    (tidy : ∀ endpoint : Endpoint, endpoint.InMemory → (act endpoint).Tidy address) (left : Nat)
    (number : UInt32) (fits : endpoint.InMemory) :
    (repeated operation retries act left number endpoint).Tidy [address] := by
  induction left generalizing number endpoint with
  | zero => exact (tidy endpoint fits).run
  | succ left ih =>
      have first := tidy endpoint fits
      simp only [repeated]
      split
      · exact first.run
      · rename_i cause failed
        split
        · have later := ih (number + 1) first.endpoint
          refine ⟨fun line member => ?_, later.reported⟩
          simp only [Run.logged, Run.behind, List.mem_append, List.mem_singleton] at member
          have grows : ∀ run : Run, run.transport ⊆ (run.behind cause (wait number)).transport :=
            fun run => (List.sublist_cons_self _ _).filterMap _ |>.subset
          have said : cause.transport?.toList ⊆
              ((repeated operation retries act left (number + 1) (act endpoint).endpoint).behind cause
                (wait number)).transport := by
            intro text member
            exact List.mem_filterMap.mpr ⟨cause, List.mem_cons_self, Option.mem_toList.mp member⟩
          rcases member with (before | rfl) | behind
          · exact ((first.log line before).mono (by omega)).of_subset (List.Subset.refl _)
              (List.nil_subset _)
          · exact (retryLine_fits number retries (first.reported cause failed)).of_subset
              (List.Subset.refl _) said
          · exact (later.log line behind).of_subset (List.Subset.refl _) (grows _)
        · exact first.run

/-! Calls. -/

end Client

/-- The key of the call is on one line, and its value fits in memory. -/
def Call.Tidy : Call → Prop
  | .save key value => OneLine key ∧ InMemory value
  | .add key value => OneLine key ∧ InMemory value
  | .remove key => OneLine key

theorem Call.Tidy.oneLine {call : Call} (tidy : call.Tidy) : OneLine call.key := by
  cases call with
  | save | add => exact tidy.1
  | remove => exact tidy

theorem Call.intent_fits {call : Call} (tidy : call.Tidy) :
    LogLine.Fits 600 [call.key] [] ⟨.debug, call.intent⟩ := by
  have equals : Short 3 " = " := .of_chars rfl (by decide)
  cases call with
  | save key value =>
      have opening : Short 20 "Saving message " := .of_chars rfl (by decide)
      have closing := equals.append (short_summarize tidy.2)
      exact (LogLine.fits_of_named (String.append_assoc) opening List.mem_cons_self tidy.1
        closing.saying).mono (by omega)
  | add key value =>
      have opening : Short 20 "Adding message " := .of_chars rfl (by decide)
      have closing := equals.append (short_summarize tidy.2)
      exact (LogLine.fits_of_named (String.append_assoc) opening List.mem_cons_self tidy.1
        closing.saying).mono (by omega)
  | remove key =>
      have opening : Short 20 "Removing message " := .of_chars rfl (by decide)
      have nothing : Short 0 "" := .of_chars rfl (by decide)
      exact (LogLine.fits_of_named String.append_empty.symm opening List.mem_cons_self tidy
        nothing.saying).mono (by omega)

theorem EndpointConfig.oneLine_address {config : EndpointConfig} (line : OneLine config.base)
    (operation : Operation) : OneLine (config.address operation) := by
  have opening : Short 40 "/admin/catalogue/message/" := .of_chars rfl (by decide)
  have path := oneLine_append_iff.mpr ⟨opening.line, operation.name_short.line⟩
  have base : OneLine (withoutSlashes config.base) := by
    intro c member
    rw [withoutSlashes, String.toList_ofList] at member
    have front := dropTrailing_prefix (· == '/') config.base.toList
    exact line c (front.subset member)
  exact oneLine_append_iff.mpr ⟨base, path⟩

namespace Client

theorem noRepetition_fits (operation : Operation) (config : EndpointConfig) (names : List String) :
    ∀ line ∈ noRepetition operation config, line.Fits 600 names [] := by
  unfold noRepetition
  split
  · exact List.forall_mem_nil _
  · refine List.forall_mem_cons.mpr ⟨LogLine.fits_of_short ?_, List.forall_mem_nil _⟩
    have bracket : Short 1 "[" := .of_chars rfl (by decide)
    have closing : Short 50 "] Cannot clone request, disabling retry" := .of_chars rfl (by decide)
    exact ((bracket.append operation.name_short).append closing).mono (by omega)

/-- Whatever value a call carries and whatever bodies it is answered with, the lines of its log fit, and
it ends with a failure that names its operation. -/
theorem perform_tidy {config : EndpointConfig} {call : Call} {endpoint : Endpoint}
    (base : OneLine config.base) (tidy : call.Tidy) (fits : endpoint.InMemory) :
    (perform config call endpoint).Tidy [call.key, config.address call.operation] := by
  have address := EndpointConfig.oneLine_address base call.operation
  have attempts : ∀ (request : Except UrlProblem Request) (endpoint : Endpoint), endpoint.InMemory →
      (attempt call.operation (config.address call.operation) request endpoint).Tidy
        (config.address call.operation) :=
    fun request _ fits => attempt_tidy address request fits
  unfold perform
  apply Run.Tidy.logged
  · have within : [config.address call.operation] ⊆ [call.key, config.address call.operation] :=
      List.subset_cons_self _ _
    apply Run.Tidy.of_subset _ within
    split
    · exact (attempts _ endpoint fits).run.logged (noRepetition_fits call.operation config _)
    · exact repeated_tidy config.maxRetries (attempts _) _ 0 fits
  · refine List.forall_mem_cons.mpr ⟨?_, List.forall_mem_nil _⟩
    exact (Call.intent_fits tidy).of_subset (by simp) (List.Subset.refl _)

end Client
end CatalogueEditor
