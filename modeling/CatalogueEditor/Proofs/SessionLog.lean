import CatalogueEditor.Proofs.CallLog
import CatalogueEditor.Proofs.Markup.Quotations
import CatalogueEditor.Proofs.StepPlan

/-!
The log of a step. A line names at most the key of the row that the step is about, and what else it says
is short, unless it tells why a content was refused: then the message of the problem stands in it. A
prompt to delete is left out, as it may name the row of another prompt.
-/

namespace CatalogueEditor

open Text

/-- The line tells why a content was refused for a key. -/
inductive LogLine.TellsProblem (key : String) (e : Markup.MarkupError) : LogLine → Prop
  | save : TellsProblem key e ⟨.warn, "Rejected invalid content for '" ++ key ++ "': " ++ e.message⟩
  | add : TellsProblem key e ⟨.warn, "Rejected add of '" ++ key ++ "': invalid content " ++ e.message⟩

section Problems
variable {key : String} {e : Markup.MarkupError} {line : LogLine} {limit n : Nat} {names : List String}

theorem LogLine.TellsProblem.fits (tells : line.TellsProblem key e) (member : key ∈ names)
    (named : OneLine key) (message : Short n e.message) : line.Fits (100 + n) names [] := by
  cases tells with
  | save =>
      have opening : Short 60 "Rejected invalid content for '" := .of_chars rfl (by decide)
      have middle : Short 40 "': " := .of_chars rfl (by decide)
      exact (fits_of_named String.append_assoc opening member named (message.saying.behind middle)).mono
        (by omega)
  | add =>
      have opening : Short 60 "Rejected add of '" := .of_chars rfl (by decide)
      have middle : Short 40 "': invalid content " := .of_chars rfl (by decide)
      exact (fits_of_named String.append_assoc opening member named (message.saying.behind middle)).mono
        (by omega)

theorem LogLine.TellsProblem.repeats (tells : line.TellsProblem key e) :
    Repeats line.text e.message := by
  cases tells with
  | save => exact ⟨_, "", String.append_empty.symm⟩
  | add => exact ⟨_, "", String.append_empty.symm⟩

theorem LogLine.TellsProblem.length_le (tells : line.TellsProblem key e) :
    key.length + e.message.length ≤ line.text.length := by
  cases tells <;> simp only [String.length_append] <;> omega

end Problems

/-! Work. -/
namespace Work

variable {names heard : List String} {told : LogLine → Prop} {work : Work} {key : String}

/-- Every line that was logged fits, or is one of those told apart. -/
def Fits (names heard : List String) (told : LogLine → Prop) (work : Work) : Prop :=
  ∀ line ∈ work.log, line.Fits 600 names heard ∨ told line

theorem start_fits (desk : Desk) : (start desk).Fits names heard told :=
  List.forall_mem_nil _

theorem Fits.tell (fits : work.Fits names heard told) {level : Level} {text : String}
    (line : told ⟨level, text⟩) : (work.say level text).Fits names heard told :=
  List.forall_mem_append.mpr ⟨fits, List.forall_mem_singleton.mpr (.inr line)⟩

theorem Fits.say (fits : work.Fits names heard told) {level : Level} {text : String}
    (short : Short 600 text) : (work.say level text).Fits names heard told :=
  List.forall_mem_append.mpr ⟨fits, List.forall_mem_singleton.mpr (.inl (LogLine.fits_of_short short))⟩

/-- The line names the key. -/
theorem Fits.sayOf (fits : work.Fits names heard told) (member : key ∈ names) (named : OneLine key)
    {level : Level} {text front back : String} (same : text = front ++ key ++ back)
    (opening : Short 100 front) (closing : Saying 500 heard back) :
    (work.say level text).Fits names heard told :=
  List.forall_mem_append.mpr
    ⟨fits, List.forall_mem_singleton.mpr (.inl (LogLine.fits_of_named same opening member named closing))⟩

theorem short_elementId (banner : Banner) : Short 40 banner.elementId := by
  cases banner <;> exact .of_chars rfl (by decide)

theorem logOf_fits (screen : Screen) (event : Event) :
    ∀ line ∈ screen.logOf event, line.Fits 600 names heard := by
  unfold Screen.logOf
  split
  · rename_i banner
    split
    · exact List.forall_mem_nil _
    · rename_i previous _
      split
      · exact List.forall_mem_nil _
      · refine List.forall_mem_singleton.mpr (LogLine.fits_of_short ?_)
        have opening : Short 10 "Banner " := .of_chars rfl (by decide)
        have middle : Short 20 " replaced by " := .of_chars rfl (by decide)
        exact (((opening.append (short_elementId previous)).append middle).append
          (short_elementId banner)).mono (by omega)
  · exact List.forall_mem_nil _

theorem Fits.render (fits : work.Fits names heard told) (event : Event) :
    (work.render event).Fits names heard told :=
  List.forall_mem_append.mpr ⟨fits, fun line member => .inl (logOf_fits _ event line member)⟩

theorem Fits.changeView (fits : work.Fits names heard told) (change : View → View) :
    (work.changeView change).Fits names heard told :=
  fits

theorem Fits.setState (fits : work.Fits names heard told) (key : String) (state : RowState) :
    (work.setState key state).Fits names heard told :=
  fits

theorem Fits.setDialog (fits : work.Fits names heard told) (index : Nat) (dialog : Dialog) :
    (work.setDialog index dialog).Fits names heard told :=
  fits

theorem Fits.sayFailure (fits : work.Fits names heard told) (member : key ∈ names) (named : OneLine key)
    {cause : RequestError} (reported : cause.Reported) (said : cause.transport?.toList = heard) :
    (work.sayFailure key cause).Fits names heard told := by
  have message := RequestError.message_saying reported
  rw [said] at message
  have opening : Short 100 "Request for '" := .of_chars rfl (by decide)
  unfold Work.sayFailure
  split
  · have middle : Short 40 "' rejected: " := .of_chars rfl (by decide)
    exact fits.sayOf member named String.append_assoc opening ((message.behind middle).mono (by omega))
  · have middle : Short 40 "' failed: " := .of_chars rfl (by decide)
    exact fits.sayOf member named String.append_assoc opening ((message.behind middle).mono (by omega))

end Work

/-! Operations. -/

/-- The content that an action carries. -/
def RowAction.content? : RowAction → Option String
  | save candidate => some candidate
  | _ => none

/-- Every line that was logged fits, or tells why the content was refused. -/
def Progress.Accounts (names heard : List String) (key : String) (content? : Option String)
    (progress : Progress) : Prop :=
  progress.work.Fits names heard fun line =>
    ∃ content e, content? = some content ∧ Markup.validate content = .error e ∧
      progress.answer = .outcome (.rejected .invalidContent) ∧ line.TellsProblem key e

theorem RowState.short_display (state : RowState) : Short 40 state.display := by
  cases state <;> exact .of_chars rfl (by decide)

theorem RowAction.short_name (action : RowAction) : Short 40 action.name := by
  cases action <;> exact .of_chars rfl (by decide)

theorem DialogPhase.short_name (phase : DialogPhase) : Short 40 phase.name := by
  cases phase <;> exact .of_chars rfl (by decide)

theorem quote_saying {heard : List String} : Saying 500 heard "'" :=
  Short.saying (.of_chars rfl (by decide))

section Operations
variable {names heard : List String} {key : String} {work : Work}

namespace Work

theorem perform_accounts (fits : ∀ told, work.Fits names heard told) {action : RowAction}
    (noPrompt : action ≠ .delete) :
    (work.perform key action).Accounts names heard key action.content? := by
  cases action with
  | edit => exact (((fits _).setState key _).render _).render _
  | save candidate =>
      simp only [perform, requestSave]
      split
      · rename_i e refused
        -- The problem is told before anything is shown, and the answer is a rejection.
        have said : Work.Fits names heard (·.TellsProblem key e) _ :=
          (((fits _).tell .save).render (.renderRow key .warning)).render (.showBanner .invalidContent)
        exact fun line member => (said line member).imp_right fun tells =>
          ⟨candidate, e, rfl, refused, rfl, tells⟩
      · exact ((fits _).setState key _).render _
  | delete => exact absurd rfl noPrompt
  | confirmDelete => exact ((fits _).setState key _).render _
  | cancelDelete => exact ((fits _).setState key _).render _

section Replies
variable (member : key ∈ names) (named : OneLine key) {told : LogLine → Prop}
  (fits : work.Fits names heard told) {reply : Reply}
  (reported : ∀ cause, reply = .failed cause → cause.Reported ∧ cause.transport?.toList = heard)
include member named fits reported

theorem finishSave_fits (candidate : String) :
    (work.finishSave key candidate reply).work.Fits names heard told := by
  cases reply with
  | ok =>
      have opening : Short 100 "Saved message '" := .of_chars rfl (by decide)
      exact ((((fits.changeView _).render _).sayOf member named rfl opening quote_saying).render _).render _
  | failed cause =>
      obtain ⟨whole, said⟩ := reported cause rfl
      exact ((((fits.setState key _).render _).sayFailure member named whole said).render _).render _

theorem finishDelete_fits : (work.finishDelete key reply).work.Fits names heard told := by
  cases reply with
  | ok =>
      have opening : Short 100 "Deleted message '" := .of_chars rfl (by decide)
      exact (((fits.changeView _).render _).render _).sayOf member named rfl opening quote_saying
  | failed cause =>
      obtain ⟨whole, said⟩ := reported cause rfl
      exact (((fits.sayFailure member named whole said).setState key _).render _).render _

theorem finishAdd_fits (index : Nat) (value : String) (locked : Bool) :
    (work.finishAdd index key value locked reply).work.Fits names heard told := by
  cases reply with
  | ok =>
      simp only [finishAdd]
      split
      · exact fits
      · rename_i view appended _
        have told := (((fits.setState key .viewing).changeView fun _ => view).render
          (.renderState key .viewing)).render (.showBanner .addSucceeded)
        split
        · have opening : Short 100 "Added message '" := .of_chars rfl (by decide)
          exact told.sayOf member named rfl opening quote_saying
        · have opening : Short 100 "Updated message '" := .of_chars rfl (by decide)
          have closing : Short 500 "' through add" := .of_chars rfl (by decide)
          exact told.sayOf member named rfl opening closing.saying
  | failed cause =>
      obtain ⟨whole, said⟩ := reported cause rfl
      have told := fits.sayFailure member named whole said
      simp only [finishAdd]
      cases locked with
      | true => exact (((told.setState key _).render _).setDialog index _).render _
      | false => exact (told.setDialog index _).render _

end Replies
end Work

namespace Desk

variable (member : key ∈ names) (named : OneLine key)
include member named

theorem dispatch_accounts (desk : Desk) {action : RowAction} (noPrompt : action ≠ .delete) :
    (desk.dispatch key action).Accounts names heard key action.content? := by
  have opening : Short 100 "Row '" := .of_chars rfl (by decide)
  have middle : Short 40 "': " := .of_chars rfl (by decide)
  have start : ∀ told, ((Work.start desk).say .debug ("Row '" ++ key ++ "': " ++ action.name)).Fits
      names heard told := fun told =>
    (Work.start_fits desk).sayOf member named String.append_assoc opening
      ((middle.append action.short_name).mono (by omega)).saying
  simp only [dispatch]
  split
  · exact start _
  · rename_i entry _
    split
    · exact Work.perform_accounts start noPrompt
    · have rejected : Short 10 "Rejected " := .of_chars rfl (by decide)
      have on : Short 10 " on '" := .of_chars rfl (by decide)
      have while' : Short 10 "' while " := .of_chars rfl (by decide)
      refine (start _).sayOf member named String.append_assoc
        (((rejected.append action.short_name).append on).mono (by omega))
        ((while'.append entry.state.short_display).mono (by omega)).saying

theorem submit_fits {told : LogLine → Prop} (fits : work.Fits names heard told) (index : Nat) {draft : Dialog}
    (same : draft.key = key) : (submit work index draft).work.Fits names heard told := by
  subst same
  simp only [submit]
  split
  · exact fits.setDialog index _
  · rename_i entry _
    split
    · exact ((fits.setDialog index _).setState _ _).render _
    · have opening : Short 100 "Rejected add of '" := .of_chars rfl (by decide)
      have middle : Short 40 "' while the row is " := .of_chars rfl (by decide)
      exact fits.sayOf member named String.append_assoc opening
        ((middle.append entry.state.short_display).mono (by omega)).saying

end Desk
end Operations

namespace Desk

variable {names heard : List String}

theorem refuseBusy_fits {told : LogLine → Prop} (desk : Desk) (dialog : Dialog) {command : String}
    (short : Short 20 command) : (desk.refuseBusy dialog command).work.Fits names heard told := by
  have opening : Short 10 "Rejected " := .of_chars rfl (by decide)
  have middle : Short 40 " while the add dialog is " := .of_chars rfl (by decide)
  exact (Work.start_fits desk).say ((((opening.append short).append middle).append
    dialog.phase.short_name).mono (by omega))

theorem requestAdd_accounts (desk : Desk) (index : Nat) (dialog : Dialog) {key : String} (value : String)
    (member : Text.trim key ∈ names) (named : OneLine (Text.trim key)) :
    (desk.requestAdd index dialog key value).Accounts names heard (Text.trim key) (some value) := by
  simp only [requestAdd]
  split
  · exact refuseBusy_fits desk dialog (.of_chars rfl (by decide))
  · have start : ∀ told, ((Work.start desk).setDialog index
        ⟨.opened, Text.trim key, value, false, false⟩).Fits names heard told :=
      fun told => (Work.start_fits desk).setDialog index _
    split
    · have required : Short 600 "Rejected add: key is required" := .of_chars rfl (by decide)
      exact ((start _).say required).setDialog index _
    · split
      · rename_i e refused
        -- The problem is told before the dialog gets its hint, and the answer is a rejection.
        have said : Work.Fits names heard (·.TellsProblem (Text.trim key) e) _ :=
          ((start _).tell .add).setDialog index ⟨.opened, Text.trim key, value, false, true⟩
        exact fun line member => (said line member).imp_right fun tells =>
          ⟨value, e, rfl, refused, rfl, tells⟩
      · exact submit_fits member named (start _) index rfl

theorem closeDialog_fits {told : LogLine → Prop} (desk : Desk) (index : Nat) (dialog : Dialog) :
    (desk.closeDialog index dialog).work.Fits names heard told := by
  unfold closeDialog
  split
  · exact refuseBusy_fits desk dialog (.of_chars rfl (by decide))
  · exact (Work.start_fits desk).setDialog index _

theorem openDialog_fits {told : LogLine → Prop} (desk : Desk) (index : Nat) (dialog : Dialog) :
    (desk.openDialog index dialog).work.Fits names heard told := by
  unfold openDialog
  split
  · exact (Work.start_fits desk).setDialog index _
  · exact Work.start_fits desk

theorem deliver_fits {told : LogLine → Prop} (desk : Desk) (waiting : Waiting) {reply : Reply}
    (member : waiting.key ∈ names) (named : OneLine waiting.key)
    (reported : ∀ cause, reply = .failed cause → cause.Reported ∧ cause.transport?.toList = heard) :
    (desk.deliver waiting reply).work.Fits names heard told := by
  have start : (Work.start desk).Fits names heard told := Work.start_fits desk
  cases waiting with
  | save key candidate => exact Work.finishSave_fits member named start reported candidate
  | add index key value locked => exact Work.finishAdd_fits member named start reported index value locked
  | remove key => exact Work.finishDelete_fits member named start reported

end Desk

/-! Steps. -/

/-- The content that a step submits. -/
def Step.content? : Step → Option String
  | .row _ action => action.content?
  | .add _ _ value => some value
  | _ => none

/-- What the transport said about the failure that a step delivers. -/
def Step.heard : Step → List String
  | .deliver _ (.failed cause) => cause.transport?.toList
  | _ => []

/-- The key is on one line, a content fits in memory, and a failure is one that a call may end with. -/
def Step.Tidy : Step → Prop
  | .row key action => OneLine key ∧ ∀ content ∈ action.content?, InMemory content
  | .add _ key value => OneLine (Text.trim key) ∧ InMemory value
  | .deliver _ reply => ∀ cause, reply = .failed cause → cause.Reported
  | _ => True

theorem Sends.tidy {before : Core} {command : Step} {waiting : Waiting}
    (sends : Sends before command waiting) (tidy : command.Tidy) : waiting.call.Tidy := by
  cases sends with
  | save key candidate => exact ⟨tidy.1, tidy.2 candidate rfl⟩
  | remove key => exact tidy.1
  | add index key value locked => exact tidy

namespace Session

variable {session : Session} {command : Step} {e : Markup.MarkupError}

/-- Every call in flight has its key on one line, and a value that fits in memory. -/
def Tidy (session : Session) : Prop :=
  ∀ ticket waiting, (ticket, waiting) ∈ session.inFlight → waiting.call.Tidy

/-- The step submits a content, which is refused for the problem. -/
def Refuses (session : Session) (command : Step) (e : Markup.MarkupError) : Prop :=
  ∃ content, command.content? = some content ∧ Markup.validate content = .error e ∧
    (session.step command).2.answer = .outcome (.rejected .invalidContent)

theorem Tidy.step (tidy : session.Tidy) (proper : command.Tidy) : (session.step command).1.Tidy := by
  intro ticket waiting member
  have effect := session.step_effect command
  rcases effect.origin member with before | ⟨_, sent⟩
  · exact tidy ticket waiting before
  · exact (effect.sends sent).tidy proper

theorem ofMessages_tidy (messages : List (String × String)) (dialogs : Nat) :
    (ofMessages messages dialogs).Tidy := by
  intro ticket waiting member
  cases member

/-- Every line of a step fits, or tells why its content was refused. -/
def Accounts (session : Session) (command : Step) : Prop :=
  ∀ line ∈ (session.step command).2.log,
    line.Fits 600 (session.key? command).toList command.heard ∨
      ∃ key e, session.key? command = some key ∧ session.Refuses command e ∧ line.TellsProblem key e

theorem accounts_of_fits {progress : Progress} {calls : List (Nat × Waiting)}
    (ran : session.step command = { session with inFlight := calls }.after progress)
    (fits : progress.work.Fits (session.key? command).toList command.heard fun _ => False) :
    session.Accounts command := by
  intro line member
  rw [ran, after_eq] at member
  exact .inl ((fits line member).resolve_right id)

theorem accounts_of_progress {progress : Progress} {key : String}
    (ran : session.step command = session.after progress)
    (concerns : session.key? command = some key)
    (accounts : progress.Accounts (session.key? command).toList command.heard key command.content?) :
    session.Accounts command := by
  intro line member
  rw [ran, after_eq] at member
  refine (accounts line member).imp_right ?_
  rintro ⟨content, e, submits, refused, answer, tells⟩
  refine ⟨key, e, concerns, ⟨content, submits, refused, ?_⟩, tells⟩
  rw [ran, after_eq, answer]
  rfl

theorem accounts_of_silent (silent : (session.step command).2.log = []) : session.Accounts command := by
  intro line member
  rw [silent] at member
  cases member

theorem step_accounts (tidy : session.Tidy) (proper : command.Tidy)
    (noPrompt : ∀ key, command ≠ .row key .delete) : session.Accounts command := by
  cases command with
  | row key action =>
      have other : action ≠ .delete := fun same => noPrompt key (congrArg _ same)
      exact accounts_of_progress rfl rfl
        (Desk.dispatch_accounts List.mem_cons_self proper.1 session.desk other)
  | openDialog index =>
      cases found : session.desk.dialogs[index]? with
      | none => exact accounts_of_silent (by simp only [step, withDialog, found, idle])
      | some dialog =>
          have ran : session.step (.openDialog index) =
              session.after (session.desk.openDialog index dialog) := by
            simp only [step, withDialog, found]
          exact accounts_of_fits ran (Desk.openDialog_fits session.desk index dialog)
  | closeDialog index =>
      cases found : session.desk.dialogs[index]? with
      | none => exact accounts_of_silent (by simp only [step, withDialog, found, idle])
      | some dialog =>
          have ran : session.step (.closeDialog index) =
              session.after (session.desk.closeDialog index dialog) := by
            simp only [step, withDialog, found]
          exact accounts_of_fits ran (Desk.closeDialog_fits session.desk index dialog)
  | add index key value =>
      cases found : session.desk.dialogs[index]? with
      | none => exact accounts_of_silent (by simp only [step, withDialog, found, idle])
      | some dialog =>
          have ran : session.step (.add index key value) =
              session.after (session.desk.requestAdd index dialog key value) := by
            simp only [step, withDialog, found]
          exact accounts_of_progress ran rfl
            (Desk.requestAdd_accounts session.desk index dialog value List.mem_cons_self proper.1)
  | deliver ticket reply =>
      cases found : session.inFlight.lookup ticket with
      | none => exact accounts_of_silent (by simp only [step, found, idle])
      | some waiting =>
          have ran : session.step (.deliver ticket reply) =
              { session with inFlight := session.inFlight.filter (·.1 != ticket) }.after
                (session.desk.deliver waiting reply) := by
            simp only [step, found]
          have named := (tidy ticket waiting (mem_of_lookup found)).oneLine
          have concerns : session.key? (.deliver ticket reply) = some waiting.key := by
            simp only [key?, found, Option.map_some]
          refine accounts_of_fits ran (Desk.deliver_fits session.desk waiting ?_ named ?_)
          · rw [concerns]
            exact List.mem_cons_self
          · rintro cause rfl
            exact ⟨proper cause rfl, rfl⟩
  | onScreen event =>
      intro line member
      exact .inl (Work.logOf_fits session.desk.screen event line member)
  | look => exact accounts_of_silent rfl

theorem Refuses.noPrompt (refuses : session.Refuses command e) (key : String) :
    command ≠ .row key .delete := by
  obtain ⟨content, submits, _⟩ := refuses
  rintro rfl
  cases submits

theorem Refuses.heard (refuses : session.Refuses command e) : command.heard = [] := by
  obtain ⟨content, submits, _⟩ := refuses
  cases command with
  | deliver => cases submits
  | _ => rfl

/-- A refused content is told of. -/
theorem Refuses.tells (refuses : session.Refuses command e) :
    ∃ key, session.key? command = some key ∧
      ∃ line ∈ (session.step command).2.log, line.TellsProblem key e := by
  obtain ⟨content, submits, refused, answer⟩ := refuses
  cases command with
  | row key action =>
      refine ⟨key, rfl, ?_⟩
      cases action with
      | save candidate =>
          cases submits
          simp only [step, after_eq] at answer ⊢
          simp only [Desk.dispatch] at answer ⊢
          split at answer
          · cases answer
          · split at answer
            · rename_i accepted
              simp only [if_pos accepted, Work.perform, Work.requestSave, refused]
              exact ⟨_, by simp [Work.render, Work.say, Work.ends], .save⟩
            · cases answer
      | edit | delete | confirmDelete | cancelDelete => cases submits
  | add index key value =>
      cases submits
      refine ⟨Text.trim key, rfl, ?_⟩
      cases found : session.desk.dialogs[index]? with
      | none =>
          simp only [step, withDialog, found, idle] at answer
          cases answer
      | some dialog =>
          simp only [step, withDialog, found, after_eq, Desk.requestAdd] at answer ⊢
          split at answer
          · cases answer
          · rename_i free
            split at answer
            · cases answer
            · rename_i named
              simp only [if_neg free, if_neg named, refused]
              exact ⟨_, by simp [Work.say, Work.setDialog, Work.ends], .add⟩
  | openDialog | closeDialog | deliver | onScreen | look => cases submits

end Session
end CatalogueEditor
