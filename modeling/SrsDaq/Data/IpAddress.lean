import SrsDaq.Data.Path

/-!
This module contains the texts of IPv4 addresses, of port numbers and of sockets, which are an
address and a port with a colon in between.
-/

namespace IpAddress

def IsDecimal (text : List Char) : Prop :=
  text ≠ [] ∧ ∀ c ∈ text, c.isDigit = true

instance (text : List Char) : Decidable (IsDecimal text) :=
  decidable_of_iff (text ≠ [] ∧ text.all Char.isDigit = true) (by simp [IsDecimal])

def IsOctet (text : List Char) : Prop :=
  IsDecimal text ∧ (text.head? = some '0' → text = ['0']) ∧ Nat.ofDigitChars 10 text 0 ≤ 255
  deriving Decidable

def IsV4Text (text : List Char) : Prop :=
  ∃ octets : List (List Char),
    octets.length = 4 ∧ (∀ octet ∈ octets, IsOctet octet) ∧ text = ['.'].intercalate octets

def IsPort (text : List Char) : Prop :=
  IsDecimal text ∧ Nat.ofDigitChars 10 text 0 ≤ 65535
  deriving Decidable

def IsSocket (text : List Char) : Prop :=
  ∃ address port, text = address ++ ':' :: port ∧ IsV4Text address ∧ IsPort port

theorem IsDecimal.notMem {text : List Char} (h : IsDecimal text) {c : Char}
    (hc : c.isDigit = false)
    : c ∉ text := by
  intro hmem
  rw [h.2 c hmem] at hc
  cases hc

theorem isV4Text_iff_splitOn (text : List Char)
    : IsV4Text text
        ↔
      (text.splitOn '.').length = 4 ∧ ∀ octet ∈ text.splitOn '.', IsOctet octet := by
  constructor
  . rintro ⟨octets, hlength, hoctets, rfl⟩
    have hdot : ∀ octet ∈ octets, '.' ∉ octet := by
      intro octet hmem
      apply (hoctets octet hmem).1.notMem
      rfl
    have hne : octets ≠ [] := by
      rintro rfl
      cases hlength
    rw [List.splitOn_intercalate '.' hdot hne]
    exact ⟨hlength, hoctets⟩
  . rintro ⟨hlength, hoctets⟩
    exact ⟨text.splitOn '.', hlength, hoctets, (List.intercalate_splitOn '.').symm⟩

instance (text : List Char) : Decidable (IsV4Text text) :=
  decidable_of_iff _ (isV4Text_iff_splitOn text).symm

theorem IsV4Text.colon_notMem {text : List Char} (h : IsV4Text text) : ':' ∉ text := by
  rcases h with ⟨octets, hlength, hoctets, rfl⟩
  have hcolon : ∀ octet ∈ octets, ':' ∉ octet := by
    intro octet hmem
    apply (hoctets octet hmem).1.notMem
    rfl
  match octets, hlength with
  | [octet₁, octet₂, octet₃, octet₄], _ => simp_all [List.intercalate]

theorem takeWhile_socket {address : List Char} (haddress : IsV4Text address) (port : List Char)
    : (address ++ ':' :: port).takeWhile (· != ':') = address :=
  Path.takeWhile_ne_append haddress.colon_notMem port

theorem isSocket_append {address : List Char} (haddress : IsV4Text address) (port : List Char)
    : IsSocket (address ++ ':' :: port) ↔ IsPort port := by
  constructor
  . rintro ⟨address', port', htext, haddress', hport⟩
    have htake := congrArg (List.takeWhile (· != ':')) htext
    rw [takeWhile_socket haddress, takeWhile_socket haddress'] at htake
    subst htake
    rw [List.append_cancel_left_eq, List.cons.injEq] at htext
    rw [htext.2]
    exact hport
  . intro hport
    exact ⟨address, port, rfl, haddress, hport⟩

theorem IsSocket.extension_ne {text ext : List Char} {c : Char} (h : IsSocket text)
    (hext : ext.getLast? = some c) (hdigit : c.isDigit = false)
    : Path.extension text ≠ '.' :: ext := by
  intro heq
  have hempty : ext ≠ [] := by
    rintro rfl
    cases hext
  rcases h with ⟨address, port, rfl, _, hport⟩
  have hsuffix : port <:+ address ++ ':' :: port :=
    (List.suffix_cons ':' port).trans (List.suffix_append address _)
  -- A socket ends with the last digit of its port, and so does what stands behind its last dot.
  have hlast : port.getLast? = some c := by
    rw [← Path.getLast?_of_suffix hsuffix hport.1.1, ← hext]
    apply Path.getLast?_of_suffix (Path.suffix_of_extension heq) hempty
  apply hport.1.notMem hdigit
  apply List.mem_of_getLast? hlast

end IpAddress
