import CatalogueEditor.Editor.Opening
import CatalogueEditor.Proofs.CheckedContent

/-!
What comes of opening an editor. Its page must name a catalogue, and somebody must make its calls: a client
that is given, or a client of its own for a host page on the web. Everything that is missing or wrong is told
in a fixed order. A catalogue that a page names is never blank, so that the client finds no fault with it.
-/

namespace CatalogueEditor

/-- The settings give the complete address of a host page on the web. -/
def Settings.OnWeb (settings : Settings) : Prop :=
  ∃ url, Url.ofText settings.base = .ok url ∧ url.scheme ∈ ["http".toList, "https".toList]

/-- The first field of the page's query that is called so names the catalogue, between blanks perhaps. -/
def Page.Names (text catalogue : String) : Prop :=
  ∃ url before value behind, Url.ofText text = .ok url ∧
    url.fields = before ++ ("catalogue".toList, value) :: behind ∧
    (∀ field ∈ before, field.1 ≠ "catalogue".toList) ∧
    catalogue = Text.trim (String.ofList value) ∧ catalogue ≠ ""

namespace Setup

/-- The page that the editor is opened on names this catalogue. -/
def Names (setup : Setup) (catalogue : String) : Prop :=
  ∃ text, setup.pageUrl = some text ∧ Page.Names text catalogue

/-- Who makes the calls of an editor of this catalogue. Settings count for nothing if a client is given. -/
inductive Calls (setup : Setup) (catalogue : String) : Caller → Prop
  | given (client : String) (injected : setup.client = some client) : setup.Calls catalogue (.given client)
  | own (settings : Settings) (alone : setup.client = none) (set : setup.settings = some settings)
      (placed : settings.OnWeb) : setup.Calls catalogue (.http (settings.endpoint catalogue))

/-- What comes of opening an editor, and when. -/
inductive Opens (setup : Setup) : Except EditorError (Editor × List LogLine) → Prop
  | nameless (reason : String) (unnamed : ∀ catalogue, ¬ setup.Names catalogue) :
      setup.Opens (.error (.validation reason))
  | unset (reason catalogue : String) (named : setup.Names catalogue) (alone : setup.client = none)
      (unset : setup.settings = none) : setup.Opens (.error (.validation reason))
  | misplaced (detail catalogue : String) (settings : Settings) (named : setup.Names catalogue)
      (alone : setup.client = none) (set : setup.settings = some settings)
      (misplaced : ¬ settings.OnWeb) : setup.Opens (.error (.client (.badConfig "base_path" detail)))
  | opened (page : Page) (caller : Caller) (log : List LogLine) (named : setup.Names page.catalogue)
      (calls : setup.Calls page.catalogue caller) :
      setup.Opens (.ok (⟨page, caller, .opening (.ofMessages setup.messages) 1⟩, log))

end Setup

namespace Page

theorem catalogue?_eq_some_iff {url : Url} {catalogue : String} : catalogue? url = some catalogue ↔
    ∃ value, Form.get? url.fields parameter = some value ∧
      catalogue = String.ofList (Text.trimChars value) ∧ catalogue ≠ "" := by
  rw [catalogue?, Option.filter_eq_some_iff, Option.map_eq_some_iff, bne_iff_ne]
  constructor
  · rintro ⟨⟨value, found, rfl⟩, present⟩
    exact ⟨value, found, rfl, present⟩
  · rintro ⟨value, found, rfl, present⟩
    exact ⟨⟨value, found, rfl⟩, present⟩

theorem read_ok_iff {text : String} {page : Page} : Page.read text = .ok page ↔
    ∃ value, Url.ofText text = .ok page.url ∧ Form.get? page.url.fields parameter = some value ∧
      page.catalogue = String.ofList (Text.trimChars value) ∧ page.catalogue ≠ "" := by
  constructor
  · intro found
    unfold Page.read at found
    split at found
    · cases found
    · rename_i url address
      split at found
      · cases found
      · rename_i catalogue named
        cases found
        obtain ⟨value, field, whole⟩ := catalogue?_eq_some_iff.mp named
        exact ⟨value, address, field, whole⟩
  · rintro ⟨value, address, field, whole⟩
    have named := catalogue?_eq_some_iff.mpr ⟨value, field, whole⟩
    simp only [Page.read, address, named]

theorem read_error {text : String} {cause : EditorError} (failed : Page.read text = .error cause) :
    ∃ reason, cause = .validation reason := by
  unfold Page.read at failed
  split at failed
  · cases failed
    exact ⟨_, rfl⟩
  · split at failed
    · cases failed
      exact ⟨_, rfl⟩
    · cases failed

theorem names_iff_read {text catalogue : String} :
    Names text catalogue ↔ ∃ url, Page.read text = .ok ⟨url, catalogue⟩ := by
  simp only [read_ok_iff, Names]
  refine exists_congr fun url => ?_
  constructor
  · rintro ⟨before, value, behind, address, fields, first, trimmed, present⟩
    refine ⟨value, address, List.lookup_eq_some_iff.mpr ⟨before, behind, fields, ?_⟩, ?_, present⟩
    · exact fun field member => bne_iff_ne.mpr (first field member).symm
    · rwa [Text.trim, String.toList_ofList] at trimmed
  · rintro ⟨value, address, found, trimmed, present⟩
    obtain ⟨before, behind, fields, first⟩ := List.lookup_eq_some_iff.mp found
    refine ⟨before, value, behind, address, fields, fun field member => ?_, ?_, present⟩
    · exact (bne_iff_ne.mp (first field member)).symm
    · rwa [Text.trim, String.toList_ofList]

theorem names_unique {text one other : String} (first : Names text one) (second : Names text other) :
    one = other := by
  obtain ⟨url, read⟩ := names_iff_read.mp first
  obtain ⟨again, same⟩ := names_iff_read.mp second
  cases read.symm.trans same
  rfl

theorem trim_of_names {text catalogue : String} (names : Names text catalogue) :
    Text.trim catalogue ≠ "" := by
  obtain ⟨_, _, value, _, _, _, _, trimmed, present⟩ := names
  rwa [trimmed, Text.trim_trim, ← trimmed]

end Page

/-- A client for a catalogue that is not blank finds fault with its address only. -/
theorem Settings.check_endpoint (settings : Settings) {catalogue : String}
    (present : Text.trim catalogue ≠ "") :
    (settings.OnWeb ∧ (settings.endpoint catalogue).check = .ok ()) ∨
      (¬ settings.OnWeb ∧ ∃ detail,
        (settings.endpoint catalogue).check = .error (.badConfig "base_path" detail)) := by
  unfold EndpointConfig.check Settings.endpoint
  dsimp only
  split
  · rename_i problem unread
    refine .inr ⟨?_, _, rfl⟩
    rintro ⟨url, read, _⟩
    cases read.symm.trans unread
  · rename_i url read
    by_cases web : url.scheme ∈ EndpointConfig.schemes
    · exact .inl ⟨⟨url, read, web⟩, by rw [if_neg (not_not.mpr web), if_neg present]⟩
    · refine .inr ⟨?_, _, if_pos web⟩
      rintro ⟨other, again, placed⟩
      cases read.symm.trans again
      exact web placed

namespace Setup

variable {setup : Setup}

theorem openEditor_of_read {text : String} {page : Page} (given : setup.pageUrl = some text)
    (read : Page.read text = .ok page) : setup.openEditor =
      match setup.caller page with
      | .error cause => .error cause
      | .ok (caller, callerLog) =>
          let (view, viewLog) := View.empty.seedFrom setup.messages
          .ok (⟨page, caller, .opening view 1⟩, callerLog ++ viewLog ++
            [⟨.info, "Editing catalogue " ++ page.catalogue ++ " (" ++ toString view.size ++ " messages)"⟩]) := by
  simp only [openEditor, given, read, bind, Except.bind]
  cases setup.caller page <;> rfl

theorem opens_of_read {text : String} {page : Page} (given : setup.pageUrl = some text)
    (read : Page.read text = .ok page) : setup.Opens setup.openEditor := by
  have names : Page.Names text page.catalogue := Page.names_iff_read.mpr ⟨page.url, read⟩
  have named : setup.Names page.catalogue := ⟨text, given, names⟩
  rw [openEditor_of_read given read]
  cases injected : setup.client with
  | some client =>
      simp only [caller, injected]
      exact .opened page _ _ named (.given client injected)
  | none =>
      cases set : setup.settings with
      | none =>
          simp only [caller, injected, set]
          exact .unset _ _ named injected set
      | some settings =>
          -- The client tests the catalogue again, but what the page names is not blank.
          rcases settings.check_endpoint (Page.trim_of_names names) with
            ⟨placed, fine⟩ | ⟨misplaced, detail, fault⟩
          · simp only [caller, injected, set, fine]
            exact .opened page _ _ named (.own settings injected set placed)
          · simp only [caller, injected, set, fault]
            exact .misplaced detail _ settings named injected set misplaced

theorem openEditor_opens (setup : Setup) : setup.Opens setup.openEditor := by
  cases given : setup.pageUrl with
  | none =>
      simp only [openEditor, given]
      refine .nameless _ ?_
      rintro catalogue ⟨text, same, _⟩
      cases given.symm.trans same
  | some text =>
      cases read : Page.read text with
      | ok page => exact opens_of_read given read
      | error cause =>
          obtain ⟨reason, rfl⟩ := Page.read_error read
          simp only [openEditor, given, read, bind, Except.bind]
          refine .nameless reason ?_
          rintro catalogue ⟨other, same, names⟩
          cases given.symm.trans same
          obtain ⟨url, found⟩ := Page.names_iff_read.mp names
          cases read.symm.trans found

theorem names_unique {one other : String} (first : setup.Names one) (second : setup.Names other) :
    one = other := by
  obtain ⟨text, given, names⟩ := first
  obtain ⟨again, same, renames⟩ := second
  cases given.symm.trans same
  exact Page.names_unique names renames

namespace Opens

variable {outcome : Except EditorError (Editor × List LogLine)}

theorem validation_iff (opens : setup.Opens outcome) :
    (∃ reason, outcome = .error (.validation reason)) ↔
      (∀ catalogue, ¬ setup.Names catalogue) ∨ setup.client = none ∧ setup.settings = none := by
  cases opens with
  | nameless reason unnamed => exact iff_of_true ⟨reason, rfl⟩ (.inl unnamed)
  | unset reason catalogue named alone unset => exact iff_of_true ⟨reason, rfl⟩ (.inr ⟨alone, unset⟩)
  | misplaced detail catalogue settings named alone set misplaced =>
      refine iff_of_false nofun ?_
      rintro (unnamed | ⟨_, unset⟩)
      · exact unnamed catalogue named
      · cases set.symm.trans unset
  | opened page caller log named calls =>
      refine iff_of_false nofun ?_
      rintro (unnamed | ⟨alone, unset⟩)
      · exact unnamed page.catalogue named
      · cases calls with
        | given client injected => cases injected.symm.trans alone
        | own settings _ set => cases set.symm.trans unset

theorem badConfig_iff (opens : setup.Opens outcome) {catalogue : String} {settings : Settings}
    (named : setup.Names catalogue) (alone : setup.client = none)
    (set : setup.settings = some settings) :
    (∃ parameter detail, outcome = .error (.client (.badConfig parameter detail))) ↔
      ¬ settings.OnWeb := by
  cases opens with
  | nameless reason unnamed => exact absurd named (unnamed catalogue)
  | unset reason catalogue _ _ unset => cases set.symm.trans unset
  | misplaced detail catalogue other _ _ same misplaced =>
      cases set.symm.trans same
      exact iff_of_true ⟨_, _, rfl⟩ misplaced
  | opened page caller log _ calls =>
      cases calls with
      | given client injected => cases injected.symm.trans alone
      | own other _ same placed =>
          cases set.symm.trans same
          exact iff_of_false nofun (not_not.mpr placed)

end Opens

theorem openEditor_given {client : String} (injected : setup.client = some client)
    (settings : Option Settings) : { setup with settings }.openEditor = setup.openEditor := by
  have caller (page : Page) : { setup with settings }.caller page = setup.caller page := by
    simp only [Setup.caller, injected]
  simp only [openEditor, caller]

end Setup

/-- Opening an editor fails for want of a page that names a catalogue or of anybody to make its calls; it fails
for the client if that is its own and its address is not one on the web; and otherwise it opens the editor of
the catalogue, with the page's messages and an empty dialog. -/
theorem opening_outcome (setup : Setup) :
    ((∃ reason, setup.openEditor = .error (.validation reason)) ↔
      (∀ catalogue, ¬ setup.Names catalogue) ∨ setup.client = none ∧ setup.settings = none) ∧
    (∀ catalogue settings, setup.Names catalogue → setup.client = none →
      setup.settings = some settings →
        ((∃ parameter detail, setup.openEditor = .error (.client (.badConfig parameter detail))) ↔
          ¬ settings.OnWeb)) ∧
    (∀ parameter detail, setup.openEditor = .error (.client (.badConfig parameter detail)) →
      parameter = "base_path") ∧
    (∀ client settings, setup.client = some client →
      { setup with settings }.openEditor = setup.openEditor) ∧
    ((∃ reason, setup.openEditor = .error (.validation reason)) ∨
      (∃ parameter detail, setup.openEditor = .error (.client (.badConfig parameter detail))) ∨
      ∃ editor log, setup.openEditor = .ok (editor, log) ∧ setup.Names editor.page.catalogue ∧
        setup.Calls editor.page.catalogue editor.caller ∧
        editor.session.desk.dialogs = [⟨.closed, "", "", false, false⟩] ∧
        editor.session.desk.view = .ofMessages setup.messages) := by
  have opens := setup.openEditor_opens
  refine ⟨opens.validation_iff, fun _ _ named alone set => opens.badConfig_iff named alone set, ?_,
    fun _ settings injected => Setup.openEditor_given injected settings, ?_⟩
  · intro parameter detail failed
    rw [failed] at opens
    cases opens
    rfl
  · generalize setup.openEditor = outcome at opens ⊢
    cases opens with
    | nameless reason | unset reason => exact .inl ⟨reason, rfl⟩
    | misplaced detail => exact .inr (.inl ⟨_, detail, rfl⟩)
    | opened page caller log named calls => exact .inr (.inr ⟨_, log, rfl, named, calls, rfl, rfl⟩)

/-- The page's first catalogue counts. A host page that is not on the web is told by its parameter, unless a
client is given. -/
theorem misplaced_settings_told :
    let page := "http://[::1]/xmlui/admin/catalogue/messages?tab=1&catalogue=+A1%20&catalogue=B"
    let setup : Setup := ⟨some page, some (.ofBase "ftp://[::1]/xmlui"), none, [("k", "v")]⟩
    setup.Names "A1" ∧ setup.client = none ∧ setup.settings = some (.ofBase "ftp://[::1]/xmlui") ∧
      (∃ detail, setup.openEditor = .error (.client (.badConfig "base_path" detail))) ∧
      { setup with client := some "C", settings := none }.openEditor =
        { setup with client := some "C" }.openEditor := by
  intro page setup
  have catalogue : (Page.read page).toOption.map Page.catalogue = some "A1" := by decide +kernel
  have scheme : (Url.ofText "ftp://[::1]/xmlui").toOption.map Url.scheme = some "ftp".toList := by
    decide +kernel
  have named : setup.Names "A1" := by
    cases read : Page.read page with
    | error cause => simp [read, Except.toOption] at catalogue
    | ok shown =>
        simp only [read, Except.toOption, Option.map_some, Option.some.injEq] at catalogue
        exact ⟨page, rfl, Page.names_iff_read.mpr ⟨shown.url, catalogue ▸ read⟩⟩
  have misplaced : ¬ (Settings.ofBase "ftp://[::1]/xmlui").OnWeb := by
    rintro ⟨url, read, web⟩
    change Url.ofText "ftp://[::1]/xmlui" = .ok url at read
    simp only [read, Except.toOption, Option.map_some, Option.some.injEq] at scheme
    rw [scheme] at web
    exact absurd web (by decide)
  obtain ⟨_, badConfig, parameter, _, _⟩ := opening_outcome setup
  obtain ⟨name, detail, failed⟩ := (badConfig "A1" _ named rfl rfl).mpr misplaced
  obtain rfl := parameter name detail failed
  obtain ⟨_, _, _, given, _⟩ := opening_outcome { setup with client := some "C" }
  exact ⟨named, rfl, rfl, ⟨detail, failed⟩, given "C" none rfl⟩

end CatalogueEditor
