import SrsDaq.Analysis.OutputFilenames
import SrsDaq.Data.IpAddress

/-!
This module contains which names `set_output_filenames` takes for the socket of an udp output.
-/

namespace Srs
namespace DataWriter

open IpAddress

variable {env : Environment} {makeAddress : List Char → Bool}

/--
What is documented of the parser of addresses: it accepts the texts of IP addresses and no others.
Without a colon there are only the IPv4 addresses among them.
-/
def ParsesAddresses (makeAddress : List Char → Bool) : Prop :=
  ∀ text, ':' ∉ text → (makeAddress text = true ↔ IsV4Text text)

theorem checkIsIpAddress_iff (hmake : ParsesAddresses makeAddress) (ipPort : List Char)
    : checkIsIpAddress makeAddress ipPort = true
        ↔
      ∃ address port, ipPort = address ++ ':' :: port ∧ IsV4Text address := by
  simp only [checkIsIpAddress, Bool.and_eq_true, List.contains_iff_mem]
  constructor
  . rintro ⟨hcolon, haddress⟩
    rcases List.eq_append_cons_of_mem hcolon with ⟨address, port, rfl, hfirst⟩
    rw [Path.takeWhile_ne_append hfirst, hmake address hfirst] at haddress
    exact ⟨address, port, rfl, haddress⟩
  . rintro ⟨address, port, rfl, haddress⟩
    rw [takeWhile_socket haddress, hmake address haddress.colon_notMem]
    exact ⟨by simp, haddress⟩

def fileExtensions : List (List Char) :=
  [".bin".toList, ".lmd".toList, ".root".toList, ".json".toList]

theorem udp_mem_outputKinds : DataWriterOption.Option.udp ∈ outputKinds := by
  decide

theorem outputKind_eq {filename : String}
    (hext : Path.extension filename.toList ∉ fileExtensions)
    : outputKind makeAddress filename
        =
      if checkIsIpAddress makeAddress filename.toList then some .udp else none := by
  simp only [fileExtensions, List.mem_cons, List.not_mem_nil, or_false, not_or] at hext
  simp only [outputKind, hext, decide_false, Bool.or_self, Bool.false_eq_true, if_false]

theorem extension_notMem_of_isSocket {text : List Char} (h : IsSocket text)
    : Path.extension text ∉ fileExtensions := by
  simp only [fileExtensions, List.mem_cons, List.not_mem_nil, or_false, not_or]
  refine ⟨?_, ?_, ?_, ?_⟩
  . exact h.extension_ne (c := 'n') rfl rfl
  . exact h.extension_ne (c := 'd') rfl rfl
  . exact h.extension_ne (c := 't') rfl rfl
  . exact h.extension_ne (c := 'n') rfl rfl

theorem outputKind_of_isSocket (hmake : ParsesAddresses makeAddress) {filename : String}
    (h : IsSocket filename.toList)
    : outputKind makeAddress filename = some .udp := by
  rw [outputKind_eq (extension_notMem_of_isSocket h), if_pos]
  rcases h with ⟨address, port, htext, haddress, _⟩
  exact (checkIsIpAddress_iff hmake _).mpr ⟨address, port, htext, haddress⟩

theorem setOutputFilenames_cons_udp {filename : String}
    (h : outputKind makeAddress filename = some .udp) (filenames : List String) (writer : DataWriter)
    : setOutputFilenames env makeAddress (filename :: filenames) writer
        =
      setOutputFilenames env makeAddress filenames
        (writer.addOutputFilename .udp udp_mem_outputKinds filename) := by
  have heffect := @setOutputFilename_effect env makeAddress filename writer
  unfold setOutputFilenames
  rw [Outcome.forEach_cons]
  generalize setOutputFilename env makeAddress filename writer = outcome at heffect
  cases heffect with
  | added kind hmem hkind hcan =>
    rw [h, Option.some.injEq] at hkind
    subst hkind
    rfl
  | ignored hkind hroot => simp [h] at hkind
  | unrecognized hkind => simp [h] at hkind

theorem setOutputFilenames_cons_none {filename : String}
    (h : outputKind makeAddress filename = none) (filenames : List String) (writer : DataWriter)
    : setOutputFilenames env makeAddress (filename :: filenames) writer
        =
      .raised (.runtimeError "Error occured at DataWriter") writer := by
  have heffect := @setOutputFilename_effect env makeAddress filename writer
  unfold setOutputFilenames
  rw [Outcome.forEach_cons]
  generalize setOutputFilename env makeAddress filename writer = outcome at heffect
  cases heffect with
  | added kind hmem hkind hcan => simp [h] at hkind
  | ignored hkind hroot => simp [h] at hkind
  | unrecognized hkind => rfl

variable (env makeAddress) in
def AcceptsSocket (filename : String) (filenames : List String) (writer : DataWriter) : Prop :=
  setOutputFilenames env makeAddress (filename :: filenames) writer
    = setOutputFilenames env makeAddress filenames
        (writer.addOutputFilename .udp udp_mem_outputKinds filename)

theorem acceptsSocket_iff (filename : String) (filenames : List String) (writer : DataWriter)
    (h : outputKind makeAddress filename = some .udp ∨ outputKind makeAddress filename = none)
    : AcceptsSocket env makeAddress filename filenames writer
        ↔
      outputKind makeAddress filename = some .udp := by
  constructor
  . intro haccepts
    rcases h with hkind | hkind
    . exact hkind
    . -- A call that raises leaves the list as it was, the other one has added to it.
      unfold AcceptsSocket at haccepts
      rw [setOutputFilenames_cons_none hkind] at haccepts
      have hsets := @setOutputFilenames_sets env makeAddress filenames
        (writer.addOutputFilename .udp udp_mem_outputKinds filename)
      rw [← haccepts] at hsets
      have hlength := congrArg List.length (hsets.names .udp (by decide))
      simp [Outcome.state] at hlength
  . intro hkind
    apply setOutputFilenames_cons_udp hkind

/--
The name is accepted exactly if it is the text of a socket, and rejected otherwise.
-/
structure RecognisesSocket (env : Environment) (makeAddress : List Char → Bool) (filename : String)
    (filenames : List String) (writer : DataWriter) : Prop where
  accepts : AcceptsSocket env makeAddress filename filenames writer ↔ IsSocket filename.toList
  rejects : ¬ IsSocket filename.toList → ∃ what,
    setOutputFilenames env makeAddress (filename :: filenames) writer
      = .raised (.runtimeError what) writer

/--
The sockets are recognised exactly on the names in which only port numbers follow an address and a
colon.
-/
theorem recognisesSocket_iff (hmake : ParsesAddresses makeAddress) {filename : String}
    (hext : Path.extension filename.toList ∉ fileExtensions) (filenames : List String)
    (writer : DataWriter)
    : RecognisesSocket env makeAddress filename filenames writer
        ↔
      ∀ address port, filename.toList = address ++ ':' :: port → IsV4Text address → IsPort port := by
  have hkind := @outputKind_eq makeAddress filename hext
  have haccepts := @acceptsSocket_iff env makeAddress filename filenames writer (by
    rw [hkind]
    split <;> simp)
  have hudp : AcceptsSocket env makeAddress filename filenames writer
      ↔ ∃ address port, filename.toList = address ++ ':' :: port ∧ IsV4Text address := by
    rw [haccepts, hkind, ← checkIsIpAddress_iff hmake]
    simp
  constructor
  . rintro ⟨haccepts, _⟩ address port htext haddress
    have hsocket := haccepts.mp (hudp.mpr ⟨address, port, htext, haddress⟩)
    rw [htext] at hsocket
    exact (isSocket_append haddress port).mp hsocket
  . intro hport
    have hsocket : AcceptsSocket env makeAddress filename filenames writer
        ↔ IsSocket filename.toList := by
      rw [hudp]
      constructor
      . rintro ⟨address, port, htext, haddress⟩
        exact ⟨address, port, htext, haddress, hport address port htext haddress⟩
      . intro hsocket
        rw [← hudp, haccepts]
        apply outputKind_of_isSocket hmake hsocket
    refine ⟨hsocket, ?_⟩
    intro hnot
    rw [← hsocket, haccepts, hkind] at hnot
    refine ⟨_, setOutputFilenames_cons_none ?_ filenames writer⟩
    rw [hkind]
    simpa using hnot

def parsesV4 (text : List Char) : Bool :=
  decide (IsV4Text text)

theorem parsesAddresses_parsesV4 : ParsesAddresses parsesV4 := by
  intro text _
  simp [parsesV4]

theorem recognisesSocket_control_port
    : RecognisesSocket plainEnvironment parsesV4 "10.0.0.2:6600" [] {} := by
  rw [recognisesSocket_iff parsesAddresses_parsesV4 (by decide)]
  intro address port htext haddress
  rw [← isSocket_append haddress, ← htext]
  exact ⟨"10.0.0.2".toList, "6600".toList, rfl, by decide, by decide⟩

theorem socket_without_port_is_accepted
    : (∃ writer, setOutputFilenames plainEnvironment parsesV4 ["10.0.0.2:abc"] {}
          = .returned writer ∧ writer.names .udp (by decide) = ["10.0.0.2:abc"]) ∧
      ¬ IsSocket "10.0.0.2:abc".toList ∧
      ¬ RecognisesSocket plainEnvironment parsesV4 "10.0.0.2:abc" [] {} := by
  have haccepts : AcceptsSocket plainEnvironment parsesV4 "10.0.0.2:abc" [] {} :=
    setOutputFilenames_cons_udp (by decide) _ _
  have hnot : ¬ IsSocket "10.0.0.2:abc".toList := by
    change ¬ IsSocket ("10.0.0.2".toList ++ ':' :: "abc".toList)
    rw [isSocket_append (by decide)]
    decide
  refine ⟨⟨_, haccepts, rfl⟩, hnot, ?_⟩
  intro hrecognises
  exact hnot (hrecognises.accepts.mp haccepts)

end DataWriter
end Srs
