import CatalogueEditor.Proofs.PostedForms
import CatalogueEditor.Proofs.SessionLog

/-!
The log of a run. A record is on one line and has a bound, up to the key or address that it names and up
to what the transport says, unless it tells why a content was refused. Of those the records are bounded
exactly if the words are bounded that the messages repeat from the content.
-/

namespace CatalogueEditor

open Text

/-- A record of the log: its line, what the line may name, and what the transport may have said. -/
structure LogRecord where
  line : LogLine
  names : List String
  heard : List String

def LogRecord.Fits (limit : Nat) (record : LogRecord) : Prop :=
  record.line.Fits limit record.names record.heard

/-- A run of an editor. On its own it is told what its calls are replied; online the calls are made, and
what comes back for them is up to the endpoint. -/
inductive EditorRun
  | alone (messages : List (String × String)) (dialogs : Nat) (steps : List Step)
  | online (config : EndpointConfig) (messages : List (String × String)) (dialogs : Nat)
      (endpoint : Endpoint) (turns : List Traffic.Turn)

namespace Traffic

variable {traffic : Traffic} {ticket : Nat} {waiting : Waiting}

/-- Keys and the base address are on one line, and contents and bodies fit in memory. -/
structure Tidy (traffic : Traffic) : Prop where
  base : OneLine traffic.config.base
  session : traffic.session.Tidy
  endpoint : traffic.endpoint.InMemory
  heard : ∀ ticket, ∀ delivery ∈ traffic.heard ticket, delivery.InMemory

theorem Tidy.replay (tidy : traffic.Tidy) (member : (ticket, waiting) ∈ traffic.session.inFlight) :
    (traffic.replay ticket waiting.call).Tidy
      [waiting.key, traffic.config.address waiting.call.operation] :=
  Client.perform_tidy tidy.base (tidy.session ticket waiting member) (tidy.heard ticket)

/-- The reply of a call is one that a step may deliver. -/
theorem Tidy.reply (tidy : traffic.Tidy) (member : (ticket, waiting) ∈ traffic.session.inFlight) :
    (Step.deliver ticket (traffic.replay ticket waiting.call).reply).Tidy := by
  intro cause failed
  apply (tidy.replay member).reported
  unfold Client.Run.reply at failed
  split at failed
  · cases failed
  · rename_i ended
    cases failed
    exact ended

theorem Tidy.tell (tidy : traffic.Tidy) {command : Step} (proper : command.Tidy) :
    (traffic.tell command).Tidy :=
  ⟨tidy.base, tidy.session.step proper, tidy.endpoint, tidy.heard⟩

theorem Tidy.turn (tidy : traffic.Tidy) {turn : Turn}
    (proper : ∀ command, turn = .user command → command.Tidy) : (traffic.turn turn).Tidy := by
  have does := traffic.turn_does turn
  generalize traffic.turn turn = after at does
  cases does with
  | nothing => exact tidy
  | told command own => exact tidy.tell (proper command rfl)
  | arrived ticket waiting request delivery found sends taken =>
      obtain ⟨delivered, kept⟩ := tidy.endpoint.take (Prod.ext taken rfl)
      refine ⟨tidy.base, tidy.session, kept, fun other => ?_⟩
      -- What was delivered came from the script, whatever call it was for.
      by_cases same : other = ticket
      · subst same
        simp only [Function.update_self]
        exact List.forall_mem_append.mpr
          ⟨tidy.heard other, List.forall_mem_singleton.mpr (delivered delivery rfl)⟩
      · simp only [Function.update_of_ne same]
        exact tidy.heard other
  | replied ticket waiting found ended =>
      exact tidy.tell (tidy.reply (mem_of_lookup found))

theorem Tidy.run (tidy : traffic.Tidy) {turns : List Turn}
    (proper : ∀ command, .user command ∈ turns → command.Tidy) : (traffic.run turns).Tidy := by
  induction turns generalizing traffic with
  | nil => exact tidy
  | cons turn rest ih =>
      apply ih
      · exact tidy.turn fun command same => proper command (same ▸ List.mem_cons_self)
      · exact fun command member => proper command (List.mem_cons_of_mem _ member)

end Traffic

namespace EditorRun

/-- The session takes the step at some time of the run. -/
inductive Takes : EditorRun → Session → Step → Prop
  | alone (messages : List (String × String)) (dialogs : Nat) (before : List Step) (command : Step)
      (rest : List Step) :
      Takes (.alone messages dialogs (before ++ command :: rest))
        ((Session.ofMessages messages dialogs).run before) command
  | user (config : EndpointConfig) (messages : List (String × String)) (dialogs : Nat)
      (endpoint : Endpoint) (before : List Traffic.Turn) (command : Step) (rest : List Traffic.Turn)
      (own : ∀ ticket reply, command ≠ .deliver ticket reply) :
      Takes (.online config messages dialogs endpoint (before ++ .user command :: rest))
        ((Traffic.opening config (.ofMessages messages dialogs) endpoint).run before).session command
  | hear (config : EndpointConfig) (messages : List (String × String)) (dialogs : Nat)
      (endpoint : Endpoint) (before : List Traffic.Turn) (ticket : Nat) (rest : List Traffic.Turn)
      (traffic : Traffic) (waiting : Waiting)
      (now : traffic = (Traffic.opening config (.ofMessages messages dialogs) endpoint).run before)
      (found : traffic.session.inFlight.lookup ticket = some waiting)
      (ended : traffic.request? ticket waiting.call = none) :
      Takes (.online config messages dialogs endpoint (before ++ .hear ticket :: rest)) traffic.session
        (.deliver ticket (traffic.replay ticket waiting.call).reply)

/-- The call is in flight at some time of the run. -/
inductive Makes : EditorRun → Traffic → Nat → Waiting → Prop
  | call (config : EndpointConfig) (messages : List (String × String)) (dialogs : Nat)
      (endpoint : Endpoint) (before rest : List Traffic.Turn) (traffic : Traffic) (ticket : Nat)
      (waiting : Waiting)
      (now : traffic = (Traffic.opening config (.ofMessages messages dialogs) endpoint).run before)
      (member : (ticket, waiting) ∈ traffic.session.inFlight) :
      Makes (.online config messages dialogs endpoint (before ++ rest)) traffic ticket waiting

/-- The run writes the record: for a step that is no prompt to delete, or for a call, as it has gone so
far and would go on if all were well. -/
inductive Writes (run : EditorRun) : LogRecord → Prop
  | step (session : Session) (command : Step) (line : LogLine) (takes : run.Takes session command)
      (noPrompt : ∀ key, command ≠ .row key .delete) (member : line ∈ (session.step command).2.log) :
      Writes run ⟨line, (session.key? command).toList, command.heard⟩
  | call (traffic : Traffic) (ticket : Nat) (waiting : Waiting) (line : LogLine)
      (makes : run.Makes traffic ticket waiting)
      (member : line ∈ (traffic.replay ticket waiting.call).log) :
      Writes run ⟨line, [waiting.key, traffic.config.address waiting.call.operation],
        (traffic.replay ticket waiting.call).transport⟩

/-- A content that is submitted in the run is refused for the problem. -/
def Refuses (run : EditorRun) (e : Markup.MarkupError) : Prop :=
  ∃ session command, run.Takes session command ∧ session.Refuses command e

/-- No key and no address has a line break, and contents and bodies fit in memory. What a run on its own
is told of failures is what a call may end with. -/
def Proper : EditorRun → Prop
  | alone _ _ steps => ∀ command ∈ steps, command.Tidy
  | online config _ _ endpoint turns =>
      OneLine config.base ∧ endpoint.InMemory ∧ ∀ command, .user command ∈ turns → command.Tidy

variable {run : EditorRun} {session : Session} {command : Step} {e : Markup.MarkupError}

theorem opening_tidy {config : EndpointConfig} {endpoint : Endpoint} (base : OneLine config.base)
    (fits : endpoint.InMemory) (messages : List (String × String)) (dialogs : Nat) :
    (Traffic.opening config (.ofMessages messages dialogs) endpoint).Tidy :=
  ⟨base, Session.ofMessages_tidy messages dialogs, fits, fun _ => List.forall_mem_nil _⟩

theorem Proper.takes (proper : run.Proper) (takes : run.Takes session command) :
    session.Tidy ∧ command.Tidy := by
  cases takes with
  | alone messages dialogs before command rest =>
      obtain ⟨earlier, here⟩ := List.forall_mem_append.mp proper
      refine ⟨?_, here command List.mem_cons_self⟩
      exact Session.run_induction Session.Tidy (fun _ _ proper tidy => tidy.step proper) before earlier
        (Session.ofMessages_tidy messages dialogs)
  | user config messages dialogs endpoint before command rest own =>
      obtain ⟨base, fits, steps⟩ := proper
      have tidy := (opening_tidy base fits messages dialogs).run fun command member =>
        steps command (List.mem_append_left _ member)
      exact ⟨tidy.session, steps command (by simp)⟩
  | hear config messages dialogs endpoint before ticket rest traffic waiting now found ended =>
      obtain ⟨base, fits, steps⟩ := proper
      have tidy := (opening_tidy base fits messages dialogs).run fun command member =>
        steps command (List.mem_append_left _ member)
      rw [← now] at tidy
      exact ⟨tidy.session, tidy.reply (mem_of_lookup found)⟩

theorem Proper.makes (proper : run.Proper) {traffic : Traffic} {ticket : Nat} {waiting : Waiting}
    (makes : run.Makes traffic ticket waiting) :
    (traffic.replay ticket waiting.call).Tidy
      [waiting.key, traffic.config.address waiting.call.operation] := by
  obtain ⟨config, messages, dialogs, endpoint, before, rest, _, _, _, now, member⟩ := makes
  obtain ⟨base, fits, steps⟩ := proper
  have tidy := (opening_tidy base fits messages dialogs).run fun command member =>
    steps command (List.mem_append_left rest member)
  rw [← now] at tidy
  exact tidy.replay member

/-- A record fits, or tells why a content was refused. -/
theorem Proper.writes (proper : run.Proper) {record : LogRecord} (writes : run.Writes record) :
    record.Fits 600 ∨ ∃ key content e, key ∈ record.names ∧ OneLine key ∧ InMemory content ∧
      Markup.validate content = .error e ∧ run.Refuses e ∧ record.line.TellsProblem key e := by
  cases writes with
  | step session command line takes noPrompt member =>
      obtain ⟨tidy, steps⟩ := proper.takes takes
      refine (Session.step_accounts tidy steps noPrompt line member).imp_right ?_
      rintro ⟨key, e, concerns, refuses, tells⟩
      obtain ⟨content, submits, refused, answer⟩ := refuses
      refine ⟨key, content, e, ?_, ?_, ?_, refused, ⟨session, command, takes, content, submits, refused,
        answer⟩, tells⟩
      · rw [concerns]
        exact List.mem_cons_self
      · cases command with
        | row => exact Option.some.inj concerns ▸ steps.1
        | add => exact Option.some.inj concerns ▸ steps.1
        | openDialog | closeDialog | deliver | onScreen | look => cases submits
      · cases command with
        | row key action => exact steps.2 content submits
        | add index key value => exact Option.some.inj submits ▸ steps.2
        | openDialog | closeDialog | deliver | onScreen | look => cases submits
  | call traffic ticket waiting line makes member =>
      refine .inl ?_
      simp only [LogRecord.Fits]
      exact (proper.makes makes).log line member

/-- If the line that tells a problem fits, the message of the problem is short. -/
theorem short_of_fits {limit : Nat} {line : LogLine} {key : String} (tells : line.TellsProblem key e)
    (fits : line.Fits limit [key] []) : Short limit e.message := by
  obtain ⟨own, name, foreign, same, short, named, said⟩ := fits
  have whole : line.text = own := by
    rcases said with rfl | member
    · exact same.trans String.append_empty
    · cases member
  have size := tells.length_le
  rw [whole] at size
  refine ⟨((whole ▸ tells.repeats).short short).line, ?_⟩
  have within := short.size
  -- The key has room of its own in the line, so that it takes none from the message.
  rcases named with rfl | ⟨member, _⟩
  · have nothing : "".length = 0 := rfl
    omega
  · obtain rfl := List.mem_singleton.mp member
    omega

variable {n limit : Nat}

theorem fits_of_words (proper : run.Proper)
    (words : ∀ e, run.Refuses e → ∀ word ∈ e.problem.quoted, Short n word) {record : LogRecord}
    (writes : run.Writes record) : record.Fits (600 + 2 * n) := by
  rcases proper.writes writes with fits |
    ⟨key, content, e, member, named, within, refused, refuses, tells⟩
  · exact fits.mono (by omega)
  · have message := Markup.MarkupError.message_short refused within (words e refuses)
    exact ((tells.fits member named message).mono (by omega)).of_subset (List.Subset.refl _)
      (List.nil_subset _)

theorem words_of_fits (fits : ∀ record, run.Writes record → record.Fits limit) (refuses : run.Refuses e) :
    ∀ word ∈ e.problem.quoted, Short limit word := by
  obtain ⟨session, command, takes, refused⟩ := refuses
  obtain ⟨key, concerns, line, member, tells⟩ := refused.tells
  have written : line.Fits limit (session.key? command).toList command.heard :=
    fits _ (.step session command line takes refused.noPrompt member)
  rw [concerns, refused.heard] at written
  exact Markup.MarkupError.words_short (short_of_fits tells written)

/-- In a run in which no key and no address has a line break, every record is on one line, and has a bound
that only what it names and what the transport says adds to, unless it tells why a content was refused.
Of a class of runs all records are bounded exactly if the words are that refused contents are quoted
with. -/
theorem records_bounded (runs : EditorRun → Prop) (proper : ∀ run, runs run → run.Proper) :
    (∀ run record, runs run → run.Writes record → record.Fits 600 ∨
      ∃ key e, run.Refuses e ∧ record.line.TellsProblem key e) ∧
    ((∃ limit, ∀ run record, runs run → run.Writes record → record.Fits limit) ↔
      ∃ limit, ∀ run e, runs run → run.Refuses e → ∀ word ∈ e.problem.quoted, Short limit word) := by
  refine ⟨fun run record among writes => ?_, ?_, ?_⟩
  · refine ((proper run among).writes writes).imp_right ?_
    rintro ⟨key, _, e, _, _, _, _, refuses, tells⟩
    exact ⟨key, e, refuses, tells⟩
  · rintro ⟨limit, fits⟩
    exact ⟨limit, fun run e among refuses =>
      words_of_fits (fun record => fits run record among) refuses⟩
  · rintro ⟨n, words⟩
    exact ⟨600 + 2 * n, fun run record among writes =>
      fits_of_words (proper run among) (fun e => words run e among) writes⟩

theorem Takes.mem {messages : List (String × String)} {dialogs : Nat} {steps : List Step}
    (takes : (EditorRun.alone messages dialogs steps).Takes session command) : command ∈ steps := by
  generalize same : EditorRun.alone messages dialogs steps = run at takes
  cases takes with
  | alone =>
      cases same
      simp
  | user | hear => cases same

/-- A tag that is left open is quoted with its name, and the body of an answer is summarized: all records
of this run are bounded. -/
theorem open_tag_told_briefly :
    let run := EditorRun.alone [("k", "v")] 1 [.row "k" .edit, .row "k" (.save "<b>"),
      .row "k" (.save "w"), .deliver 2 (.failed (.answered "save" 500 (some "a\nb")))]
    run.Proper ∧ ∃ limit, ∀ record, run.Writes record → record.Fits limit := by
  intro run
  have key : OneLine "k" := (Short.of_chars rfl (by decide) : Short 1 "k").line
  have proper : run.Proper := by
    refine List.forall_mem_cons.mpr ⟨⟨key, ?_⟩, List.forall_mem_cons.mpr ⟨⟨key, ?_⟩,
      List.forall_mem_cons.mpr ⟨⟨key, ?_⟩, List.forall_mem_singleton.mpr ?_⟩⟩⟩
    · rintro content ⟨⟩
    · rintro content ⟨⟩
      decide
    · rintro content ⟨⟩
      decide
    · rintro cause ⟨⟩
      refine .answered .save 500 _ ?_
      rintro text ⟨⟩
      decide
  refine ⟨proper, ?_⟩
  have quoted : ((Markup.validate "<b>").mapError (·.problem.quoted)) = .error ["b", "root"] := by
    decide +kernel
  have valid : (Markup.validate "w").isOk := by decide +kernel
  have words : ∀ other e, other = run → other.Refuses e →
      ∀ word ∈ e.problem.quoted, Short 10 word := by
    rintro _ e rfl ⟨session, command, takes, content, submits, refused, _⟩
    simp only [run] at takes
    have member := takes.mem
    simp only [List.mem_cons, List.not_mem_nil, or_false] at member
    rcases member with rfl | rfl | rfl | rfl
    · cases submits
    · cases submits
      rw [refused] at quoted
      have same : e.problem.quoted = ["b", "root"] := Except.error.inj quoted
      rw [same]
      refine List.forall_mem_cons.mpr ⟨?_, List.forall_mem_singleton.mpr ?_⟩
      · exact .of_chars rfl (by decide)
      · exact .of_chars rfl (by decide)
    · cases submits
      rw [refused] at valid
      cases valid
    · cases submits
  obtain ⟨limit, fits⟩ := (records_bounded (· = run) fun _ same => same ▸ proper).2.mpr ⟨10, words⟩
  exact ⟨limit, fun record => fits run record rfl⟩

/-- A reference is quoted with its name, which may have a line break. -/
theorem broken_reference_breaks_line :
    let run := EditorRun.alone [("k", "v")] 1 [.row "k" .edit, .row "k" (.save "&a\nb;")]
    run.Proper ∧ ∃ record, run.Writes record ∧ ∀ limit, ¬ record.Fits limit := by
  intro run
  have key : OneLine "k" := (Short.of_chars rfl (by decide) : Short 1 "k").line
  refine ⟨List.forall_mem_cons.mpr ⟨⟨key, ?_⟩, List.forall_mem_singleton.mpr ⟨key, ?_⟩⟩, ?_⟩
  · rintro content ⟨⟩
  · rintro content ⟨⟩
    decide
  · let line : LogLine := ⟨.warn, "Rejected invalid content for 'k': at byte 5: " ++
      "at 1..4: unrecognized entity `a\nb`"⟩
    have written : line ∈ ((((Session.ofMessages [("k", "v")] 1).run [.row "k" .edit]).step
        (.row "k" (.save "&a\nb;"))).2.log) := by decide +kernel
    refine ⟨_, .step _ _ line (.alone _ _ [.row "k" .edit] _ []) (fun key => by simp) written, ?_⟩
    rintro limit ⟨own, name, foreign, same, short, _, rfl | member⟩
    · rw [String.append_empty] at same
      have broken : '\n' ∈ own.toList := same ▸ (by decide +kernel)
      cases short.line _ broken
    · cases member

end EditorRun
end CatalogueEditor
