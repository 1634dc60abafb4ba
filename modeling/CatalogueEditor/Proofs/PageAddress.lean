import CatalogueEditor.Editor.Page
import CatalogueEditor.Proofs.AddressText

/-!
The address of the editor's page. It is the address of the host page with a path of its own and with the
catalogue as the only field of its query, so that the page that is opened there shows this catalogue.
-/

namespace CatalogueEditor

namespace Page

open Url

theorem clean_address (base : String) :
    clean (EndpointConfig.withoutSlashes base ++ path).toList =
      shown (Text.dropTrailing (· == '/') base.toList) ++ path.toList := by
  rw [EndpointConfig.withoutSlashes, String.toList_append, String.toList_ofList]
  exact clean_append _ (by decide +kernel) (solid_of_visible (by decide +kernel))

/-- The address of the editor's page has the scheme of the base. -/
theorem scheme_address {base : String} {url page : Url} (read : Url.ofText base = .ok page)
    (located : Url.ofText (EndpointConfig.withoutSlashes base ++ path) = .ok url) :
    url.scheme = page.scheme := by
  unfold Url.ofText Url.read at read located
  split at read
  · cases read
  · rename_i scheme behind split
    obtain ⟨name, named, renamed⟩ := splitScheme_some split
    have nonempty : clean base.toList ≠ [] := by simp [named]
    obtain ⟨_, slashes, blanks, parted⟩ := exists_parted nonempty
    obtain ⟨text, rfl, rfl⟩ := scheme_before parted.slash (parted.cleaned.symm.trans named)
    have address : clean (EndpointConfig.withoutSlashes base ++ path).toList =
        name ++ ':' :: (text ++ (blanks ++ path.toList)) := by
      rw [clean_address, parted.goes]
      simp
    rw [address, renamed] at located
    rw [readBehind_scheme read, readBehind_scheme located]

theorem withoutSlashes_slashes (base : String) (count : Nat) :
    EndpointConfig.withoutSlashes (base ++ String.ofList (List.replicate count '/')) =
      EndpointConfig.withoutSlashes base := by
  have slashes : ∀ c ∈ List.replicate count '/', (c == '/') = true := by simp
  unfold EndpointConfig.withoutSlashes Text.dropTrailing
  rw [String.toList_append, String.toList_ofList, List.reverse_append, List.reverse_replicate,
    List.dropWhile_append_of_pos slashes]

theorem catalogue?_address {base : String} (id : String) {url page : Url} (unasked : '?' ∉ base.toList)
    (read : Url.ofText base = .ok page) (web : page.scheme ∈ EndpointConfig.schemes)
    (located : Url.ofText (EndpointConfig.withoutSlashes base ++ path) = .ok url) :
    ∃ again, Url.ofText (url.addField (parameter.toList, id.toList)).text = .ok again ∧
      catalogue? again = if Text.trim id = "" then none else some (Text.trim id) := by
  have kind := EndpointConfig.kind_of_schemes web
  rw [← scheme_address read located] at kind
  have settled := settled_of_read located kind
  have queryless : url.query = none := by
    refine read_queryless (fun member => ?_) located kind
    rw [String.toList_append, EndpointConfig.withoutSlashes, String.toList_ofList] at member
    rcases List.mem_append.mp member with before | behind
    · exact unasked ((List.rdropWhile_prefix _ _).subset before)
    · exact absurd behind (by decide)
  obtain ⟨again, reads, _, _, query, _⟩ := (settled.addField (parameter.toList, id.toList)).read_render
  refine ⟨again, by rwa [Url.ofText, Url.text, String.toList_ofList], ?_⟩
  have fields : again.fields = [(parameter.toList, id.toList)] := by
    rw [fields, query, Url.addField, queryless]
    exact Form.read_encodeField _
  have found : Form.get? again.fields parameter = some id.toList := by simp [fields, Form.get?]
  have whole : catalogue? again = (some (Text.trim id)).filter (· != "") := by
    rw [catalogue?, found]
    rfl
  rw [whole, Option.filter_some]
  by_cases blank : Text.trim id = "" <;> simp [blank]

end Page

/-- The address of the editor's page names its catalogue, and does not depend on slashes at the end of
the base. -/
theorem address_names_catalogue (base id : String) :
    (∀ count, Page.address (base ++ String.ofList (List.replicate count '/')) id =
      Page.address base id) ∧
    ∀ page address, '?' ∉ base.toList → Url.ofText base = .ok page →
      page.scheme ∈ EndpointConfig.schemes → Page.address base id = .ok address →
        (Text.trim id ≠ "" → ∃ shown, Page.read address = .ok shown ∧
          shown.catalogue = Text.trim id) ∧
        (Text.trim id = "" → ∃ reason, Page.read address = .error (.validation reason)) := by
  refine ⟨fun count => ?_, fun page address unasked read web made => ?_⟩
  · unfold Page.address
    rw [Page.withoutSlashes_slashes]
  unfold Page.address at made
  split at made
  · cases made
  · rename_i url located
    cases made
    obtain ⟨again, reads, named⟩ := Page.catalogue?_address id unasked read web located
    constructor
    · intro given
      rw [if_neg given] at named
      exact ⟨⟨again, Text.trim id⟩, by simp only [Page.read, reads, named], rfl⟩
    · intro blank
      rw [if_pos blank] at named
      simp only [Page.read, reads, named]
      exact ⟨_, rfl⟩

/-- The base may end in a slash behind a port, and the catalogue may have marks of queries in its name. -/
theorem address_names_catalogue_below_context :
    let base := "https://u:p@[::1]:8443/xmlui/"
    (∃ address shown, Page.address base " a&b=c#+%é " = .ok address ∧
      Page.read address = .ok shown ∧ shown.catalogue = "a&b=c#+%é") ∧
    ∃ address reason, Page.address base "\u3000" = .ok address ∧
      Page.read address = .error (.validation reason) := by
  intro base
  have schemes : (Url.ofText base).toOption.map Url.scheme = some "https".toList := by decide +kernel
  cases read : Url.ofText base with
  | error problem => simp [read, Except.toOption] at schemes
  | ok page =>
    have web : page.scheme ∈ EndpointConfig.schemes := by
      simp only [read, Except.toOption, Option.map_some, Option.some.injEq] at schemes
      simp [schemes, EndpointConfig.schemes]
    have made : ∀ id, ∃ address, Page.address base id = .ok address := by
      have below : (Url.ofText (EndpointConfig.withoutSlashes base ++ Page.path)).isOk := by
        decide +kernel
      intro id
      unfold Page.address
      split
      · rename_i problem failed
        rw [failed] at below
        cases below
      · exact ⟨_, rfl⟩
    constructor
    · obtain ⟨address, made⟩ := made " a&b=c#+%é "
      have names := (address_names_catalogue base " a&b=c#+%é ").2 page address
      obtain ⟨named, _⟩ := names (by decide) read web made
      obtain ⟨shown, reads, same⟩ := named (by decide)
      exact ⟨address, shown, made, reads, same.trans (by decide)⟩
    · obtain ⟨address, made⟩ := made "\u3000"
      have names := (address_names_catalogue base "\u3000").2 page address
      obtain ⟨_, blank⟩ := names (by decide) read web made
      obtain ⟨reason, fails⟩ := blank (by decide)
      exact ⟨address, reason, made, fails⟩

end CatalogueEditor
