import CatalogueEditor.Proofs.Digits
import CatalogueEditor.Proofs.EndpointAddress

/-!
The text of authorities on the web. What is written for a user, a password and a host holds only
characters that stand for themselves there, and a port is written as the digits that it is read from, so
that an authority is read back from its text.
-/

namespace CatalogueEditor

namespace Percent

open Text

variable {keep : Char → Bool} {c : Char} {text : List Char}

/-- What is written for a character that does not stand for itself stands for itself. -/
structure Settles (keep : Char → Bool) : Prop where
  mark : keep '%' = true
  digit : ∀ n < 16, keep (hexDigit n) = true

theorem Settles.keeps_of_mem (settles : Settles keep) (member : c ∈ encode keep text) :
    keep c = true := by
  obtain ⟨source, _, written⟩ := List.mem_flatMap.mp member
  rcases mem_encodeChar written with kept | rfl | ⟨n, small, rfl⟩
  · exact kept
  · exact settles.mark
  · exact settles.digit n small

theorem encode_of_keeps (kept : ∀ c ∈ text, keep c = true) : encode keep text = text := by
  have each : text.flatMap (encodeChar keep) = text.flatMap fun c => [c] :=
    List.flatMap_congr fun c member => if_pos (kept c member)
  exact each.trans (List.flatMap_singleton' text)

theorem not_control_of_isGraphic (graphic : isGraphic c = true) : ¬ c ≤ ' ' := by
  simp only [isGraphic, Bool.and_eq_true, decide_eq_true_eq] at graphic
  exact fun control => absurd (Char.le_trans graphic.1 control) (by decide)

end Percent

theorem Form.cut_of_not_mem {mark : Char} {text : List Char} (absent : mark ∉ text) :
    cut mark text = (text, []) := by
  have run : ∀ c ∈ text, (c != mark) = true := by
    simp only [bne_iff_ne]
    rintro _ member rfl
    exact absent member
  rw [cut, List.takeWhile_eq_self_iff.mpr run, List.dropWhile_eq_nil_iff.mpr run]
  rfl

namespace Url

open UrlPath

/-- Neither a blank end of an address nor the end of an authority, nor the end of a user. -/
structure Stays (c : Char) : Prop where
  solid : ¬ c ≤ ' '
  inside : endsAuthority .web c = false
  unnamed : c ≠ '@'

theorem stays_of_isAlphanum {c : Char} (alphanum : c.isAlphanum = true) : Stays c := by
  refine ⟨fun control => ?_, ?_, ?_⟩
  · exact Text.control_cases control (p := fun c => ¬ c.isAlphanum) (by decide) alphanum
  · rw [← Bool.not_eq_true]
    intro ends
    rcases endsAuthority_cases ends with rfl | rfl | rfl | rfl <;> cases alphanum
  · rintro rfl
    cases alphanum

theorem stays_colon : Stays ':' :=
  ⟨by decide, rfl, by decide⟩

theorem keepsInUser_settles : Percent.Settles keepsInUser :=
  ⟨by decide, by decide⟩

theorem keeps_settles : Percent.Settles keeps :=
  ⟨by decide, by decide⟩

theorem keepsInQuery_settles : Percent.Settles (keepsInQuery .web) :=
  ⟨by decide, by decide⟩

theorem keepsInFragment_settles : Percent.Settles keepsInFragment :=
  ⟨by decide, by decide⟩

theorem stays_of_keepsInUser {c : Char} (kept : keepsInUser c = true) : Stays c ∧ c ≠ ':' := by
  have graphic : Percent.isGraphic c = true := by
    simp only [keepsInUser, keeps, Bool.and_eq_true] at kept
    exact kept.1.1
  refine ⟨⟨Percent.not_control_of_isGraphic graphic, ?_, ?_⟩, ?_⟩
  · rw [← Bool.not_eq_true]
    intro ends
    rcases endsAuthority_cases ends with rfl | rfl | rfl | rfl <;> exact absurd kept (by decide)
  · rintro rfl
    exact absurd kept (by decide)
  · rintro rfl
    exact absurd kept (by decide)

/-! The parts of an authority. -/

theorem splitUser_keeps {text left : List Char} {user : List Char × List Char}
    (split : splitUser .web text = .ok (user, left)) :
    (∀ c ∈ user.1, keepsInUser c = true) ∧ ∀ c ∈ user.2, keepsInUser c = true := by
  unfold splitUser at split
  dsimp only at split
  split at split
  · split at split
    · cases split
    · cases split
      exact ⟨fun _ => keepsInUser_settles.keeps_of_mem, fun _ => keepsInUser_settles.keeps_of_mem⟩
  · cases split
    exact ⟨List.forall_mem_nil _, List.forall_mem_nil _⟩

theorem splitPort_some {scheme text left : List Char} {port : Nat}
    (split : splitPort scheme text = .ok (some port, left)) :
    port ≤ 65535 ∧ webPorts.lookup scheme ≠ some port := by
  unfold splitPort at split
  dsimp only at split
  split at split
  · cases split
  · split at split
    · cases split
    · rename_i number _ within
      simp only [Except.ok.injEq, Prod.mk.injEq, Option.ite_none_left_eq_some, not_or,
        Option.some.injEq] at split
      obtain ⟨⟨⟨_, apart⟩, rfl⟩, _⟩ := split
      exact ⟨by omega, apart⟩

/-- What stands before the last at sign is the user with the password. -/
theorem splitUser_named {named text : List Char} (user : ∀ c ∈ named, Stays c)
    (stays : ∀ c ∈ text, Stays c) (nonempty : text ≠ []) :
    splitUser .web (named ++ '@' :: text) =
      .ok ((Percent.encode keepsInUser (Form.cut ':' named).1,
        Percent.encode keepsInUser (Form.cut ':' named).2), text) := by
  have whole : (named ++ '@' :: text).takeWhile (!endsAuthority .web ·) = named ++ '@' :: text := by
    refine List.takeWhile_eq_self_iff.mpr fun c member => ?_
    rcases List.mem_append.mp member with front | back
    · simp [(user c front).inside]
    · rcases List.mem_cons.mp back with rfl | behind
      · rfl
      · simp [(stays c behind).inside]
  -- Read from the end, the text goes on up to the at sign, which it does not hold itself.
  have behind : (named ++ '@' :: text).reverse.takeWhile (· != '@') = text.reverse := by
    have run : text.reverse.all (· != '@') = true := by
      simpa using fun c member => (stays c member).unnamed
    rw [List.reverse_append, List.reverse_cons, List.append_assoc]
    exact Markup.takeWhile_run run (by simp)
  have front : (named ++ '@' :: text).take ((named ++ '@' :: text).length - text.length - 1) = named := by
    have length : (named ++ '@' :: text).length - text.length - 1 = named.length := by simp; omega
    rw [length, List.take_left]
  have rest : (named ++ '@' :: text).drop (named.length + 1) = text := by simp
  have starts : text.head?.any (endsAuthority .web) = false := by
    obtain ⟨c, text, rfl⟩ := List.exists_cons_of_ne_nil nonempty
    exact (stays c List.mem_cons_self).inside
  unfold splitUser
  simp only [whole, behind, List.reverse_reverse, front, rest, starts]
  simp

theorem splitHost_cons {bracketed : Bool} {c : Char} (inside : endsAuthority .web c = false)
    (goesOn : c ≠ ':' ∨ bracketed = true) (rest : List Char) :
    splitHost .web bracketed (c :: rest) =
      let split := splitHost .web (c == '[' || bracketed && c != ']') rest
      (c :: split.1, split.2) := by
  rw [splitHost, if_neg]
  simpa [inside, imp_iff_not_or] using goesOn

/-- Outside brackets a host goes on up to a colon. -/
theorem splitHost_plain {text more : List Char}
    (plain : ∀ c ∈ text, endsAuthority .web c = false ∧ c ≠ ':' ∧ c ≠ '[')
    (stops : splitHost .web false more = ([], more)) :
    splitHost .web false (text ++ more) = (text, more) := by
  induction text with
  | nil => exact stops
  | cons c text ih =>
      obtain ⟨inside, colon, bracket⟩ := plain c List.mem_cons_self
      have later := ih fun d member => plain d (List.mem_cons_of_mem c member)
      rw [List.cons_append, splitHost_cons inside (.inl colon), beq_false_of_ne bracket]
      simp only [Bool.false_and, Bool.or_false, later]

/-- Inside brackets it goes on up to the closing one. -/
theorem splitHost_bracketed {text more : List Char}
    (plain : ∀ c ∈ text, endsAuthority .web c = false ∧ c ≠ ']')
    (stops : splitHost .web false more = ([], more)) :
    splitHost .web true (text ++ ']' :: more) = (text ++ [']'], more) := by
  induction text with
  | nil =>
      have behind : splitHost .web (']' == '[' || true && ']' != ']') more = ([], more) := stops
      rw [List.nil_append, splitHost_cons rfl (.inr rfl), behind]
      rfl
  | cons c text ih =>
      obtain ⟨inside, bracket⟩ := plain c List.mem_cons_self
      have later := ih fun d member => plain d (List.mem_cons_of_mem c member)
      have stays : (c == '[' || true && c != ']') = true := by simp [bracket]
      rw [List.cons_append, splitHost_cons inside (.inr rfl), stays]
      simp only [later, List.cons_append]

end Url

namespace Host

open Url

/-- What is written for a host: a name or an older address, which hold nothing that a domain does not,
or a newer address in brackets. -/
inductive Written : List Char → Prop
  | plain {text : List Char} (nonempty : text ≠ [])
      (allowed : ∀ c ∈ text, Domain.isForbidden c = false) : Written text
  | bracketed {text : List Char} (pieces : ∀ c ∈ text, c = ':' ∨ c.isAlphanum = true) :
      Written ('[' :: text ++ [']'])

theorem readDomain_name {text domain : List Char} (found : readDomain text = .ok (name domain)) :
    domain ≠ [] ∧ ∀ c ∈ domain, Domain.isForbidden c = false := by
  unfold readDomain at found
  split at found
  · cases found
  · cases found
  · rename_i domain' nonempty read
    split at found
    · split at found <;> cases found
    · cases found
      refine ⟨fun empty => nonempty empty, ?_⟩
      simp only [Domain.ofText?, Option.bind_eq_bind, Option.bind_eq_some_iff] at read
      obtain ⟨_, _, _, _, written⟩ := read
      split at written
      · rename_i fits
        cases written
        simpa using (Bool.and_eq_true_iff.mp fits).2
      · cases written

theorem mem_write4 {address : Nat} {c : Char} (member : c ∈ Address.write4 address) :
    Domain.isForbidden c = false := by
  have digit : ∀ {n : Nat}, c ∈ Nat.toDigits 10 n → Domain.isForbidden c = false := fun member =>
    Text.forall_mem_toDigits (p := (Domain.isForbidden · = false)) (by decide) (by decide) member
  simp only [Address.write4, List.mem_append, List.mem_cons] at member
  rcases member with byte | rfl | byte | rfl | byte | rfl | byte
  all_goals first | exact digit byte | decide

theorem mem_writePieces {pieces : List Nat} {c : Char} (member : c ∈ Address.writePieces pieces) :
    c = ':' ∨ c.isAlphanum = true := by
  have digit : ∀ {n : Nat}, c ∈ Nat.toDigits 16 n → c.isAlphanum = true := fun member =>
    Text.forall_mem_toDigits (p := (·.isAlphanum = true)) (by decide) (by decide) member
  fun_induction Address.writePieces pieces with
  | case1 => cases member
  | case2 piece => exact .inr (digit member)
  | case3 piece rest _ ih =>
      rcases List.mem_append.mp member with here | behind
      · exact .inr (digit here)
      · exact (List.mem_cons.mp behind).elim .inl ih

theorem mem_write6 {pieces : List Nat} {c : Char} (member : c ∈ Address.write6 pieces) :
    c = ':' ∨ c.isAlphanum = true := by
  simp only [Address.write6] at member
  split at member
  · exact mem_writePieces member
  · simp only [List.mem_append, List.mem_cons] at member
    rcases member with before | colon | colon | behind
    · exact mem_writePieces before
    · exact .inl colon
    · exact .inl colon
    · exact mem_writePieces behind

theorem written_of_read {text : List Char} {host : Host} (found : read text = .ok host) :
    Written host.render := by
  have once := readOnce_of_isSettled (isSettled_of_read found)
  cases host with
  | name domain =>
      unfold readOnce at once
      split at once
      · unfold readBracketed at once
        split at once <;> cases once
      · obtain ⟨nonempty, allowed⟩ := readDomain_name once
        exact .plain nonempty allowed
  | address4 address => exact .plain (by simp [render, Address.write4]) fun c => mem_write4
  | address6 pieces => exact .bracketed fun c => mem_write6

namespace Written

variable {text : List Char} (written : Written text)
include written

theorem ne_nil : text ≠ [] := by
  cases written with
  | plain nonempty _ => exact nonempty
  | bracketed _ => exact List.cons_ne_nil _ _

theorem stays : ∀ c ∈ text, Stays c := by
  cases written with
  | plain _ allowed =>
      intro c member
      have free := allowed c member
      refine ⟨fun control => ?_, ?_, ?_⟩
      · exact Text.control_cases control (p := fun c => Domain.isForbidden c ≠ false) (by decide) free
      · rw [← Bool.not_eq_true]
        intro ends
        rcases endsAuthority_cases ends with rfl | rfl | rfl | rfl <;> exact absurd free (by decide)
      · rintro rfl
        exact absurd free (by decide)
  | bracketed pieces =>
      intro c member
      simp only [List.cons_append, List.mem_cons, List.mem_append, List.not_mem_nil, or_false] at member
      rcases member with rfl | inner | rfl
      · exact ⟨by decide, rfl, by decide⟩
      · rcases pieces c inner with rfl | alphanum
        · exact stays_colon
        · exact stays_of_isAlphanum alphanum
      · exact ⟨by decide, rfl, by decide⟩

/-- The text of a host is found again in front of a port. -/
theorem split {more : List Char} (port : ∀ c, more.head? = some c → c = ':') :
    splitHost .web false (text ++ more) = (text, more) := by
  have stops : splitHost .web false more = ([], more) := by
    cases more with
    | nil => rfl
    | cons c more => simp [splitHost, port c rfl]
  have inside := fun c member => (written.stays c member).inside
  cases written with
  | plain _ allowed =>
      refine splitHost_plain (fun c member => ⟨inside c member, ?_, ?_⟩) stops
      all_goals
        rintro rfl
        exact absurd (allowed _ member) (by decide)
  | @bracketed text pieces =>
      have plain : ∀ c ∈ text, endsAuthority .web c = false ∧ c ≠ ']' := by
        intro c member
        refine ⟨inside c (by simp [member]), ?_⟩
        rintro rfl
        exact absurd (pieces _ member) (by decide)
      have behind : splitHost .web ('[' == '[' || false && '[' != ']') (text ++ ']' :: more) =
          (text ++ [']'], more) := splitHost_bracketed plain stops
      rw [List.cons_append, List.cons_append, List.append_assoc, List.singleton_append,
        splitHost_cons rfl (.inl (by decide)), behind]

end Written
end Host

namespace Authority

open Url

/-- An authority as it is read on the web: its user and its password are encoded, it has a host, and no
port that the scheme stands for already. -/
structure Settled (scheme : List Char) (authority : Authority) : Prop where
  user : ∀ c ∈ authority.user, keepsInUser c = true
  password : ∀ c ∈ authority.password, keepsInUser c = true
  host : ∃ text host, Host.read text = .ok host ∧ authority.host = some host
  port : ∀ port, authority.port = some port → port ≤ 65535 ∧ webPorts.lookup scheme ≠ some port

/-- The text of an authority behind the two slashes. -/
def body (authority : Authority) : List Char :=
  authority.renderUser ++ (authority.host.map Host.render).getD [] ++ authority.renderPort

theorem settled_of_splitAuthority {scheme text left : List Char} {authority : Authority}
    (web : SchemeKind.ofScheme scheme = .web)
    (split : splitAuthority scheme text = .ok (authority, left)) : authority.Settled scheme := by
  rw [splitAuthority_web web] at split
  obtain ⟨⟨user, behind⟩, named, split⟩ := exists_ok_of_bind split
  obtain ⟨host, read, split⟩ := exists_ok_of_bind split
  obtain ⟨encoded, hidden⟩ := splitUser_keeps named
  have hosted : ∃ text found, Host.read text = .ok found ∧ host = some found := by
    unfold readHost at read
    dsimp only at read
    split at read
    · cases read
    · obtain ⟨found, reads, same⟩ := exists_ok_of_map read
      exact ⟨_, found, reads, same.symm⟩
  by_cases colon : (Url.splitHost .web false behind).2.head? = some ':'
  · obtain ⟨digits, behind⟩ := List.head?_eq_some_iff.mp colon
    simp only [behind, withPort] at split
    split at split
    · cases split
    · obtain ⟨⟨port, left'⟩, numbered, same⟩ := exists_ok_of_map split
      cases same
      refine ⟨encoded, hidden, hosted, ?_⟩
      rintro port rfl
      exact splitPort_some numbered
  · rw [withPort_none _ _ _ colon] at split
    split at split
    · cases split
    · cases split
      exact ⟨encoded, hidden, hosted, fun port given => by cases given⟩

section Settled
variable {scheme : List Char} {authority : Authority} (settled : authority.Settled scheme)
include settled

theorem Settled.splitUser {text : List Char} (stays : ∀ c ∈ text, Stays c) (nonempty : text ≠ []) :
    splitUser .web (authority.renderUser ++ text) =
      .ok ((authority.user, authority.password), text) := by
  have user := fun c member => stays_of_keepsInUser (settled.user c member)
  have password := fun c member => (stays_of_keepsInUser (settled.password c member)).1
  have colon : ':' ∉ authority.user := fun member => (user _ member).2 rfl
  have encoded := And.intro (Percent.encode_of_keeps settled.user)
    (Percent.encode_of_keeps settled.password)
  unfold renderUser
  split
  · rename_i unnamed
    have whole : text.takeWhile (!endsAuthority .web ·) = text :=
      List.takeWhile_eq_self_iff.mpr fun c member => by simp [(stays c member).inside]
    have absent : '@' ∉ text := fun member => (stays _ member).unnamed rfl
    rw [List.nil_append, Url.splitUser, whole, if_neg absent, unnamed.1, unnamed.2]
  · split
    · rename_i secretless
      have cut := Form.cut_of_not_mem colon
      rw [List.append_nil, List.append_assoc, List.singleton_append,
        splitUser_named (fun c member => (user c member).1) stays nonempty, cut, encoded.1, secretless]
      rfl
    · have named : ∀ c ∈ authority.user ++ ':' :: authority.password, Stays c := by
        refine List.forall_mem_append.mpr ⟨fun c member => (user c member).1, ?_⟩
        exact List.forall_mem_cons.mpr ⟨stays_colon, password⟩
      rw [List.append_assoc, List.singleton_append, splitUser_named named stays nonempty,
        Form.cut_mark colon, encoded.1, encoded.2]

theorem Settled.splitPort {port : Nat} (given : authority.port = some port) :
    splitPort scheme (Nat.toDigits 10 port) = .ok (some port, []) := by
  obtain ⟨small, apart⟩ := settled.port port given
  have digit : ∀ c ∈ Nat.toDigits 10 port, c.isDigit = true := fun c =>
    Nat.isDigit_of_mem_toDigits (by decide) (by decide)
  have all : (Nat.toDigits 10 port).takeWhile Char.isDigit = Nat.toDigits 10 port :=
    List.takeWhile_eq_self_iff.mpr digit
  have none : (Nat.toDigits 10 port).dropWhile Char.isDigit = [] :=
    List.dropWhile_eq_nil_iff.mpr digit
  unfold Url.splitPort
  simp only [all, none, Text.digitsValue_toDigits]
  simp [Nat.not_lt.mpr small, apart]

omit settled in
theorem stays_renderPort : ∀ c ∈ authority.renderPort, Stays c := by
  unfold renderPort
  split
  · exact List.forall_mem_nil _
  · refine List.forall_mem_cons.mpr ⟨stays_colon, fun c member => ?_⟩
    have digit : c.isDigit = true :=
      Nat.isDigit_of_mem_toDigits (by decide) (by decide) member
    exact stays_of_isAlphanum (by simp [Char.isAlphanum, digit])

theorem Settled.stays_renderUser : ∀ c ∈ authority.renderUser, Stays c ∨ c = '@' := by
  have user := fun c member => (stays_of_keepsInUser (settled.user c member)).1
  have password := fun c member => (stays_of_keepsInUser (settled.password c member)).1
  intro c member
  unfold renderUser at member
  split at member
  · cases member
  · rcases List.mem_append.mp member with named | mark
    · left
      rcases List.mem_append.mp named with first | second
      · exact user c first
      · split at second
        · cases second
        · rcases List.mem_cons.mp second with rfl | hidden
          · exact stays_colon
          · exact password c hidden
    · exact .inr (List.mem_singleton.mp mark)

theorem Settled.withPort {user : List Char × List Char} {host : Option Host}
    (named : user = (authority.user, authority.password)) (hosted : authority.host = host)
    (some : host ≠ none) :
    withPort scheme user host authority.renderPort = .ok (authority, []) := by
  obtain ⟨user', password, host', port⟩ := authority
  cases port with
  | none =>
      subst named hosted
      rw [renderPort, withPort_none _ _ _ (by simp), if_neg fun both => some both.1]
  | some port =>
      subst named hosted
      simp only [renderPort, Url.withPort, settled.splitPort rfl]
      rw [if_neg some]
      rfl

/-- An authority is read back from what is written for it. -/
theorem Settled.splitAuthority (web : SchemeKind.ofScheme scheme = .web) :
    splitAuthority scheme authority.body = .ok (authority, []) := by
  obtain ⟨text, host, read, hosted⟩ := settled.host
  have written := Host.written_of_read read
  have whole : authority.body = authority.renderUser ++ (host.render ++ authority.renderPort) := by
    rw [body, hosted, List.append_assoc]
    rfl
  have behind := List.forall_mem_append.mpr ⟨written.stays, authority.stays_renderPort⟩
  have nonempty := List.append_ne_nil_of_left_ne_nil written.ne_nil authority.renderPort
  have colon : ∀ c, authority.renderPort.head? = some c → c = ':' := by
    unfold renderPort
    split
    · exact nofun
    · rintro c ⟨⟩
      rfl
  have reads : readHost .web host.render = .ok (some host) := by
    simp only [readHost, if_neg written.ne_nil, Host.read_render read]
    rfl
  rw [splitAuthority_web web, whole, settled.splitUser behind nonempty]
  simp only [Except.bind, written.split colon, reads]
  exact settled.withPort rfl hosted nofun

theorem Settled.body_stays : ∀ c ∈ authority.body, ¬ c ≤ ' ' ∧ endsAuthority .web c = false := by
  obtain ⟨text, host, read, hosted⟩ := settled.host
  have written := Host.written_of_read read
  intro c member
  rw [body, hosted] at member
  rcases List.mem_append.mp member with front | port
  · rcases List.mem_append.mp front with user | host
    · rcases settled.stays_renderUser c user with stays | rfl
      · exact ⟨stays.solid, stays.inside⟩
      · exact ⟨by decide, rfl⟩
    · exact ⟨(written.stays c host).solid, (written.stays c host).inside⟩
  · exact ⟨(stays_renderPort c port).solid, (stays_renderPort c port).inside⟩

theorem Settled.body_ne_nil : authority.body ≠ [] := by
  obtain ⟨text, host, read, hosted⟩ := settled.host
  rw [body, hosted, List.append_assoc]
  exact List.append_ne_nil_of_right_ne_nil _
    (List.append_ne_nil_of_left_ne_nil (Host.written_of_read read).ne_nil _)

end Settled

end Authority

end CatalogueEditor
