import ProxyWatch.Proofs.Data.Attempt
import ProxyWatch.Proofs.Url.Hosts
import ProxyWatch.Url.Reader

/-! Every authority that is read is read back from its text. -/
namespace ProxyWatch.Url
variable {separator : Char} {text front rest : List Char} {scheme : String} {url : Url}

private theorem splitLast_of_not_mem (plain : separator ∉ text) : splitLast separator text = none := by
  have absent : separator ∉ text.reverse := mt List.mem_reverse.mp plain
  obtain ⟨-, all⟩ := span_mark absent (show ∀ c ∈ ([] : List Char).head?, c = separator from nofun)
  rw [List.append_nil] at all
  rw [splitLast, all]

theorem splitLast_append (plain : separator ∉ rest) :
    splitLast separator (front ++ separator :: rest) = some (front, rest) := by
  have absent : separator ∉ rest.reverse := mt List.mem_reverse.mp plain
  have reversed : (front ++ separator :: rest).reverse = rest.reverse ++ separator :: front.reverse := by simp
  obtain ⟨taken, dropped⟩ := span_mark absent (show ∀ c ∈ (separator :: front.reverse).head?, c = separator by simp)
  simp only [splitLast, reversed, dropped, taken, List.reverse_reverse]

private theorem splitPort_of_plain (all : ∀ c ∈ text, Host.IsInner c ∧ c ≠ ':') (rest : List Char) :
    splitPort false (text ++ rest) = (text ++ (splitPort false rest).1, (splitPort false rest).2) := by
  induction text with
  | nil => rfl
  | cons c text ih =>
    have ⟨inner, other⟩ := all c List.mem_cons_self
    have opens : c ≠ '[' := fun same => inner.2 (by simp [same])
    have closes : c ≠ ']' := fun same => inner.2 (by simp [same])
    rw [List.cons_append, splitPort, if_neg fun colon => other colon.1, if_neg opens, if_neg closes,
      ih fun d member => all d (.tail _ member)]
    rfl

private theorem splitPort_in_brackets (all : ∀ c ∈ text, Host.IsInner c) (rest : List Char) :
    splitPort true (text ++ ']' :: rest) = (text ++ ']' :: (splitPort false rest).1, (splitPort false rest).2) := by
  induction text with
  | nil =>
    rw [List.nil_append, splitPort, if_neg (by decide), if_neg (by decide), if_pos rfl]
    rfl
  | cons c text ih =>
    have inner := all c List.mem_cons_self
    have opens : c ≠ '[' := fun same => inner.2 (by simp [same])
    have closes : c ≠ ']' := fun same => inner.2 (by simp [same])
    rw [List.cons_append, splitPort, if_neg (by simp), if_neg opens, if_neg closes,
      ih fun d member => all d (.tail _ member)]
    rfl

theorem splitPort_append (stands : Host.Stands text) (rest : List Char) :
    splitPort false (text ++ rest) = (text ++ (splitPort false rest).1, (splitPort false rest).2) := by
  cases stands with
  | plain _ all => exact splitPort_of_plain all rest
  | @bracketed inner all =>
    have moved : '[' :: (inner ++ [']']) ++ rest = '[' :: (inner ++ ']' :: rest) := by simp
    rw [moved, splitPort, if_neg (by decide), if_pos rfl, splitPort_in_brackets all]
    simp

/-- The parts of an authority, as they are read and written. -/
structure IsAuthority [Idna] (url : Url) : Prop where
  authority : url.authority = true
  username : ∀ c ∈ url.username.toList, EncodeSet.userinfo.Keeps c
  password : ∀ password ∈ url.password, password ≠ "" ∧ ∀ c ∈ password.toList, EncodeSet.userinfo.Keeps c
  port : ∀ port ∈ url.port, port ≤ 65535 ∧ defaultPort? url.scheme ≠ some port
  host : ∀ host ∈ url.host, readHost url.scheme host.toText = .ok host ∧ Host.Stands host.toText
  missing : url.host = none →
    isSpecial url.scheme = false ∧ url.username = "" ∧ url.password = none ∧ url.port = none

private theorem readCredentials_spec (text : List Char) :
    (∀ c ∈ (readCredentials text).1.toList, EncodeSet.userinfo.Keeps c) ∧
      ∀ password ∈ (readCredentials text).2, password ≠ "" ∧ ∀ c ∈ password.toList, EncodeSet.userinfo.Keeps c := by
  have stable : EncodeSet.userinfo.IsStable := by decide
  unfold readCredentials
  dsimp only
  constructor
  · intro c member
    rw [String.toList_ofList] at member
    exact keeps_of_mem_percentEncode stable member
  · intro password found
    split at found
    · cases found
    · rename_i some_
      cases found
      refine ⟨fun empty => some_ ?_, fun c member => ?_⟩
      · have empty := congrArg String.toList empty
        rw [String.toList_ofList] at empty
        rw [percentEncode_eq_nil_iff.mp empty]
        rfl
      · rw [String.toList_ofList] at member
        exact keeps_of_mem_percentEncode stable member

private theorem readPort_spec {digits : List Char} {port : Option Nat}
    (read : readPort scheme digits = .ok (port, rest)) :
    ∀ p ∈ port, p ≤ 65535 ∧ defaultPort? scheme ≠ some p := by
  unfold readPort at read
  dsimp only at read
  split at read
  · cases read
  · rename_i small
    split at read
    · split at read
      · cases read
        nofun
      · rename_i other
        cases read
        rintro _ ⟨⟩
        exact ⟨Nat.le_of_not_lt small, fun same => other (.inr same)⟩
    · cases read

private theorem readHost_toText [Idna] {host : Host} (read : readHost scheme text = .ok host) :
    readHost scheme host.toText = .ok host ∧
      (Host.Stands host.toText ∨ host = .domain "" ∧ isSpecial scheme = false) := by
  unfold readHost at read ⊢
  cases special : isSpecial scheme with
  | true =>
    rw [special, if_pos rfl] at read
    obtain ⟨again, stands⟩ := Host.read_toText read
    exact ⟨again, .inl stands⟩
  | false =>
    rw [special, if_neg Bool.false_ne_true] at read
    obtain ⟨again, missing | stands⟩ := Host.readPlain_toText read
    · exact ⟨again, .inr ⟨missing, rfl⟩⟩
    · exact ⟨again, .inl stands⟩

theorem isAuthority_of_readPlace [Idna] {credentials place : List Char}
    (read : readPlace scheme credentials place = .ok (url, rest)) : url.scheme = scheme ∧ IsAuthority url := by
  have ⟨named, secret⟩ := readCredentials_spec credentials
  unfold readPlace at read
  generalize readCredentials credentials = parts at read named secret
  generalize splitPort false place = parts' at read
  obtain ⟨username, password⟩ := parts
  obtain ⟨hostText, portText⟩ := parts'
  dsimp only at read named secret
  split at read
  · cases read
  · obtain ⟨host, found, read⟩ := bind_eq_ok read
    obtain ⟨again, stands⟩ := readHost_toText found
    by_cases empty : host = .domain ""
    · -- An authority without a host has nothing else.
      subst empty
      have plain := (stands.resolve_left Host.not_stands_nil).2
      simp only [if_true] at read
      split at read
      · cases read
      · rename_i placed
        obtain ⟨rfl, rfl, rfl⟩ : portText = none ∧ username = "" ∧ password = none := by
          simpa [not_or] using placed
        cases read
        exact ⟨rfl, rfl, named, nofun, nofun, nofun, fun _ => ⟨plain, rfl, rfl, rfl⟩⟩
    · simp only [if_neg empty, Option.isNone_some, Bool.false_eq_true, false_and, if_false] at read
      have stands := stands.resolve_right fun missing => empty missing.1
      cases portText with
      | none =>
        cases read
        exact ⟨rfl, rfl, named, secret, nofun, fun _ among => Option.some.inj among ▸ ⟨again, stands⟩, nofun⟩
      | some digits =>
        obtain ⟨⟨port, more⟩, number, read⟩ := bind_eq_ok read
        cases read
        exact ⟨rfl, rfl, named, secret, readPort_spec number,
          fun _ among => Option.some.inj among ▸ ⟨again, stands⟩, nofun⟩

/-- What is read as an authority. -/
theorem isAuthority_of_readAuthority [Idna] {more : Bool} (read : readAuthority scheme text more = .ok (url, rest)) :
    url.scheme = scheme ∧ IsAuthority url := by
  unfold readAuthority at read
  split at read
  · exact isAuthority_of_readPlace read
  · split at read
    · cases read
    · exact isAuthority_of_readPlace read

/-- The credentials of a url before their end. -/
def credentials (url : Url) : List Char :=
  url.username.toList ++ (url.password.elim [] fun password => ':' :: password.toList)

/-- The port of a url, with its colon. -/
def portChars (url : Url) : List Char := url.port.elim [] fun port => ':' :: Nat.toDigits 10 port

/-- The text of an authority behind its slashes. -/
def authorityChars (url : Url) : List Char :=
  (if url.credentials.isEmpty then [] else url.credentials ++ ['@']) ++ url.hostText.toList ++ url.portChars

private theorem credentialsText_toList (url : Url) :
    url.credentialsText.toList = if url.credentials.isEmpty then [] else url.credentials ++ ['@'] := by
  unfold credentialsText credentials
  cases url.password with
  | some password => simp [toString]
  | none =>
    by_cases empty : url.username = ""
    · simp [empty]
    · simp [empty]

theorem authorityText_toList (authority : url.authority = true) :
    url.authorityText.toList = '/' :: '/' :: url.authorityChars := by
  have port : ((url.port.map fun port => s!":{port}").getD "").toList = url.portChars := by
    unfold portChars
    cases url.port with
    | none => rfl
    | some port => simp [toString]
  rw [authorityText, if_pos authority, authorityChars, ← credentialsText_toList, ← port]
  simp [toString]

theorem hostText_of_host {host : Host} (found : url.host = some host) : url.hostText.toList = host.toText := by
  simp [hostText, found]

theorem hostText_of_missing (missing : url.host = none) : url.hostText.toList = [] := by
  simp [hostText, missing]

namespace IsAuthority
variable [Idna] (known : IsAuthority url)
include known

private theorem readCredentials_credentials : readCredentials url.credentials = (url.username, url.password) := by
  have colonless : ∀ c ∈ url.username.toList, (c != ':') = true := by
    intro c member
    have other : c ≠ ':' := fun same => (known.username c member).2.2 (by rw [same]; decide)
    simpa using other
  have named : String.ofList (percentEncode .userinfo url.username.toList) = url.username := by
    rw [percentEncode_of_keeps known.username, String.ofList_toList]
  unfold readCredentials credentials
  rw [List.takeWhile_append_of_pos colonless, List.dropWhile_append_of_pos colonless]
  cases found : url.password with
  | none => simp [named]
  | some password =>
    obtain ⟨some_, kept⟩ := known.password password found
    have secret : String.ofList (percentEncode .userinfo password.toList) = password := by
      rw [percentEncode_of_keeps kept, String.ofList_toList]
    simp [named, secret, some_]

private theorem splitPort_place :
    splitPort false (url.hostText.toList ++ url.portChars) =
      (url.hostText.toList, url.port.map (Nat.toDigits 10)) := by
  have ports : splitPort false url.portChars = ([], url.port.map (Nat.toDigits 10)) := by
    unfold portChars
    cases url.port with
    | none => rfl
    | some port => rfl
  cases found : url.host with
  | none =>
    rw [hostText_of_missing found, List.nil_append, ports]
  | some host =>
    rw [hostText_of_host found, splitPort_append (known.host host found).2, ports, List.append_nil]

private theorem readPort_digits {port : Nat} (found : url.port = some port) :
    readPort url.scheme (Nat.toDigits 10 port) = .ok (some port, []) := by
  obtain ⟨small, other⟩ := known.port port found
  have digits : ∀ c ∈ Nat.toDigits 10 port, c.isDigit = true := by
    intro c member
    obtain ⟨d, less, rfl⟩ := mem_toDigits (by decide) member
    exact (show ∀ d < 10, (Nat.digitChar d).isDigit = true by decide) d less
  obtain ⟨taken, dropped⟩ := span_all digits
  simp [readPort, taken, dropped, readBase_toDigits, Nat.not_lt.mpr small, other]

private theorem readPlace_credentials :
    readPlace url.scheme url.credentials (url.hostText.toList ++ url.portChars) =
      .ok ({ url with path := .segments [], query := none, fragment := none }, []) := by
  have parts := known.readCredentials_credentials
  have place := known.splitPort_place
  obtain ⟨scheme, username, password, authority, host, port, path, query, fragment⟩ := url
  obtain rfl : authority = true := known.authority
  unfold readPlace
  rw [parts, place]
  cases host with
  | none =>
    obtain ⟨plain, rfl, rfl, rfl⟩ := known.missing rfl
    have empty : readHost scheme [] = .ok (.domain "") := by
      simp [readHost, plain, Host.readPlain, percentEncode]
    simp [hostText, plain, empty]
    rfl
  | some host =>
    obtain ⟨read, stands⟩ := known.host host rfl
    have some_ : host.toText ≠ [] := fun none => Host.not_stands_nil (none ▸ stands)
    have other : host ≠ .domain "" := by
      rintro rfl
      exact some_ rfl
    have text : hostText ⟨scheme, username, password, true, some host, port, path, query, fragment⟩ =
      String.ofList host.toText := rfl
    cases port with
    | none =>
      simp [text, read, some_, other, bind, Except.bind, pure, Except.pure]
    | some port =>
      have digits := known.readPort_digits rfl
      simp [text, read, some_, other, digits, bind, Except.bind, pure, Except.pure]

theorem mem_place {c : Char} (member : c ∈ url.hostText.toList ++ url.portChars) :
    0x20 < c.toNat ∧ c ∉ ['/', '\\', '?', '#', '@'] := by
  obtain host | port := List.mem_append.mp member
  · cases found : url.host with
    | none =>
      rw [hostText_of_missing found] at host
      cases host
    | some name =>
      rw [hostText_of_host found] at host
      exact (known.host name found).2.mem host
  · unfold portChars at port
    cases found : url.port with
    | none =>
      rw [found] at port
      cases port
    | some number =>
      rw [found] at port
      obtain rfl | digit := List.mem_cons.mp port
      · decide
      · obtain ⟨d, small, rfl⟩ := mem_toDigits (by decide) digit
        exact (show ∀ d < 10, 0x20 < (Nat.digitChar d).toNat ∧ Nat.digitChar d ∉ ['/', '\\', '?', '#', '@'] by
          decide) d small

private theorem at_not_mem_place : '@' ∉ url.hostText.toList ++ url.portChars :=
  fun member => (known.mem_place member).2 (by decide)

theorem mem_credentials {c : Char} (member : c ∈ url.credentials) :
    0x20 < c.toNat ∧ c ∉ ['/', '\\', '?', '#', '@'] := by
  have kept (keeps : EncodeSet.userinfo.Keeps c) : 0x20 < c.toNat ∧ c ∉ ['/', '\\', '?', '#', '@'] := by
    have marks : ∀ d ∈ ['/', '\\', '?', '#', '@'], d ∈ EncodeSet.userinfo.members := by decide
    exact ⟨keeps.blank_lt (by decide), fun among => keeps.2.2 (marks c among)⟩
  obtain name | secret := List.mem_append.mp member
  · exact kept (known.username c name)
  · cases found : url.password with
    | none =>
      rw [found] at secret
      cases secret
    | some password =>
      rw [found] at secret
      obtain rfl | within := List.mem_cons.mp secret
      · decide
      · exact kept ((known.password password found).2 c within)

theorem mem_authorityChars {c : Char} (member : c ∈ url.authorityChars) :
    0x20 < c.toNat ∧ c ∉ ['/', '\\', '?', '#'] := by
  have fewer (within : 0x20 < c.toNat ∧ c ∉ ['/', '\\', '?', '#', '@']) :
      0x20 < c.toNat ∧ c ∉ ['/', '\\', '?', '#'] :=
    ⟨within.1, fun among => within.2 (List.mem_append_left ['@'] among)⟩
  rw [authorityChars, List.append_assoc] at member
  obtain front | place := List.mem_append.mp member
  · split at front
    · cases front
    · obtain inner | sign := List.mem_append.mp front
      · exact fewer (known.mem_credentials inner)
      · rw [List.mem_singleton.mp sign]
        decide
  · exact fewer (known.mem_place place)

/-- Every authority is read back from its text. -/
theorem readAuthority_authorityChars (more : Bool) :
    readAuthority url.scheme url.authorityChars more =
      .ok ({ url with path := .segments [], query := none, fragment := none }, []) := by
  have plain := known.at_not_mem_place
  have read := known.readPlace_credentials
  unfold readAuthority authorityChars
  by_cases empty : url.credentials = []
  · rw [empty] at read
    rw [empty, List.isEmpty_nil, if_pos rfl, List.nil_append, splitLast_of_not_mem plain]
    exact read
  · have split : (url.credentials ++ ['@']) ++ url.hostText.toList ++ url.portChars =
        url.credentials ++ '@' :: (url.hostText.toList ++ url.portChars) := by simp
    rw [if_neg (by simpa using empty), split, splitLast_append plain]
    simp [empty, read]

end IsAuthority
end ProxyWatch.Url
