import HttpServer.Config
import HttpServer.Proofs.Numerals
import Mathlib.Data.List.TakeDrop

/-! Host and port on one line, read back as an endpoint. A reader stops at a character that it cannot
take, so what it makes of a host does not depend on the port that follows. That reads back the endpoint
of a host of version 4. A host of version 6 is full of colons, and nothing but brackets around it tells
the one before the port from the others: without them the line is no endpoint at all. -/
namespace HttpServer

namespace Address

section Readers

variable {α β : Type} {more : List Char}

/-- A reader takes from a text what it takes from it alone, though `more` follows. -/
def Reader.StopsAt (reader : Reader α) (more : List Char) : Prop :=
  ∀ text, reader (text ++ more) = (reader text).map (Prod.map id (· ++ more))

theorem Reader.StopsAt.bind {reader : Reader α} {next : α × List Char → Option (β × List Char)}
    (first : reader.StopsAt more)
    (second : ∀ value, Reader.StopsAt (fun text => next (value, text)) more) :
    Reader.StopsAt (fun text => reader text >>= next) more := by
  intro text
  change (reader (text ++ more)).bind _ = Option.map _ ((reader text).bind _)
  rw [first]
  cases reader text with
  | none => rfl
  | some read => exact second read.1 read.2

theorem stopsAt_pure (value : α) : Reader.StopsAt (fun text => some (value, text)) more :=
  fun _ => rfl

theorem Reader.StopsAt.read {reader : Reader α} (stops : reader.StopsAt more) {text : List Char}
    {value : α} (whole : reader text = some (value, [])) :
    reader (text ++ more) = some (value, more) := by
  rw [stops, whole]
  rfl

theorem whole_eq_some_iff {reader : Reader α} {text : String} {value : α} :
    whole reader text = some value ↔ reader text.toList = some (value, []) := by
  rw [whole]
  split
  · next taken =>
    rw [taken]
    simp
  · next other =>
    constructor
    · exact nofun
    · intro taken
      exact absurd taken (other value)

end Readers

theorem digits_append {radix : Nat} {c : Char} (other : Numeral.digit? radix c = none)
    (text tail : List Char) :
    digits radix (text ++ c :: tail) = Prod.map id (· ++ c :: tail) (digits radix text) := by
  simp only [digits, List.span_eq_takeWhile_dropWhile]
  induction text with
  | nil => simp [other]
  | cons d text ih =>
      cases digit : Numeral.digit? radix d with
      | none => simp [digit]
      | some value => simpa [digit] using ih

/-- A character that stands in no address of version 4. -/
structure Bars (c : Char) : Prop where
  digit : Numeral.digit? 10 c = none
  point : '.' ≠ c

/-- A character that stands in no address at all. -/
structure BarsAll (c : Char) : Prop extends Bars c where
  hex : Numeral.digit? 16 c = none
  colon : ':' ≠ c

section Stopping

variable {c : Char} (tail : List Char)

theorem mark_stopsAt {d : Char} (other : d ≠ c) : (mark d).StopsAt (c :: tail) := by
  intro text
  cases text with
  | nil => simp [mark, other]
  | cons e text => by_cases same : d = e <;> simp [mark, same]

theorem octet_stopsAt (other : Numeral.digit? 10 c = none) : octet.StopsAt (c :: tail) := by
  intro text
  rw [octet, octet, digits_append other]
  obtain ⟨found, rest⟩ := digits 10 text
  simp only [Prod.map, id]
  split <;> rfl

theorem group_stopsAt (other : Numeral.digit? 16 c = none) : group.StopsAt (c :: tail) := by
  intro text
  rw [group, group, digits_append other]
  obtain ⟨found, rest⟩ := digits 16 text
  simp only [Prod.map, id]
  split <;> rfl

theorem readV4_stopsAt (bars : Bars c) : readV4.StopsAt (c :: tail) :=
  have octets := octet_stopsAt tail bars.digit
  have points := mark_stopsAt tail bars.point
  octets.bind fun _ => points.bind fun _ => octets.bind fun _ => points.bind fun _ =>
    octets.bind fun _ => points.bind fun _ => octets.bind fun _ => stopsAt_pure _

theorem readGroups_stopsAt (bars : BarsAll c) (room : Nat) (started : Bool) (text : List Char) :
    readGroups room started (text ++ c :: tail) =
      { readGroups room started text with
        rest := (readGroups room started text).rest ++ c :: tail } := by
  -- Whatever is tried where a group may stand stops at the same place; the groups after it are the
  -- induction.
  induction room generalizing started text with
  | zero => rfl
  | succ room ih =>
      have lead : (if started then (mark ':' (text ++ c :: tail)).map (·.2)
            else some (text ++ c :: tail)) =
          (if started then (mark ':' text).map (·.2) else some text).map (· ++ c :: tail) := by
        cases started with
        | false => rfl
        | true =>
            simp only [if_true]
            rw [mark_stopsAt tail bars.colon]
            cases mark ':' text <;> rfl
      rw [readGroups, readGroups, lead]
      cases (if started then (mark ':' text).map (·.2) else some text) with
      | none => rfl
      | some next =>
          have dotted : (if 0 < room then readV4 (next ++ c :: tail) else none) =
              (if 0 < room then readV4 next else none).map (Prod.map id (· ++ c :: tail)) := by
            split
            · exact readV4_stopsAt tail bars.toBars next
            · rfl
          simp only [Option.map_some]
          rw [dotted]
          cases (if 0 < room then readV4 next else none) with
          | some taken => rfl
          | none =>
              simp only [Option.map_none]
              rw [group_stopsAt tail bars.hex]
              cases group next with
              | none => rfl
              | some taken =>
                  simp only [Option.map_some, Prod.map, ih]
                  rfl

theorem readV6_stopsAt (bars : BarsAll c) : readV6.StopsAt (c :: tail) := by
  intro text
  rw [readV6, readV6, readGroups_stopsAt tail bars]
  generalize readGroups 8 false text = front
  simp only
  split
  · cases filled front.groups [] <;> rfl
  · split
    · rfl
    · have colon := mark_stopsAt tail bars.colon
      have back : Reader.StopsAt (fun text => do
          let back := readGroups (7 - front.groups.length) false text
          return (← filled front.groups back.groups, back.rest)) (c :: tail) := by
        intro text
        simp only [readGroups_stopsAt tail bars]
        cases filled front.groups (readGroups (7 - front.groups.length) false text).groups <;> rfl
      exact (colon.bind fun _ => colon.bind fun _ => back) front.rest

end Stopping

/-- What starts like an address of version 4 is no address of version 6. -/
theorem readV6_of_readV4 {text rest : List Char} {octets : Vector UInt8 4}
    (read : readV4 text = some (octets, rest)) : readV6 text = none := by
  have front : readGroups 8 false text =
      ⟨[joined octets[0] octets[1], joined octets[2] octets[3]], true, rest⟩ := by
    simp [readGroups, read]
  simp [readV6, front]

theorem barsAll_bracket : BarsAll '[' := ⟨⟨by decide, by decide⟩, by decide, by decide⟩

theorem read_bracket (text : List Char) :
    readV4 ('[' :: text) = none ∧ readV6 ('[' :: text) = none :=
  ⟨readV4_stopsAt text barsAll_bracket.toBars [], readV6_stopsAt text barsAll_bracket []⟩

section Texts

variable {text : String}

theorem read_of_ofText? {address : Address} (spelt : ofText? text = some address) :
    (∃ octets, address = .v4 octets ∧ readV4 text.toList = some (octets, [])) ∨
      ∃ groups, address = .v6 groups ∧ readV6 text.toList = some (groups, []) := by
  rw [ofText?, Option.or_eq_some_iff] at spelt
  rcases spelt with four | ⟨-, six⟩
  · obtain ⟨octets, taken, rfl⟩ := Option.map_eq_some_iff.mp four
    exact .inl ⟨octets, rfl, whole_eq_some_iff.mp taken⟩
  · obtain ⟨groups, taken, rfl⟩ := Option.map_eq_some_iff.mp six
    exact .inr ⟨groups, rfl, whole_eq_some_iff.mp taken⟩

theorem readV4_of_v4 {octets : Vector UInt8 4} (spelt : ofText? text = some (.v4 octets)) :
    readV4 text.toList = some (octets, []) := by
  rcases read_of_ofText? spelt with ⟨_, same, read⟩ | ⟨_, same, _⟩
  · cases same
    exact read
  · cases same

theorem readV6_of_v6 {groups : Vector UInt16 8} (spelt : ofText? text = some (.v6 groups)) :
    readV6 text.toList = some (groups, []) := by
  rcases read_of_ofText? spelt with ⟨_, same, _⟩ | ⟨_, same, read⟩
  · cases same
  · cases same
    exact read

/-- A text that spells an address of version 6 does not even start like one of version 4. -/
theorem readV4_eq_none_of_v6 {groups : Vector UInt16 8} (spelt : ofText? text = some (.v6 groups)) :
    readV4 text.toList = none := by
  cases read : readV4 text.toList with
  | none => rfl
  | some taken =>
      have other := readV6_of_readV4 read
      rw [readV6_of_v6 spelt] at other
      cases other

/-- Nor does it start with a bracket. -/
theorem mark_of_v6 {groups : Vector UInt16 8}
    (spelt : ofText? text = some (.v6 groups)) (more : List Char) {c : Char} (other : '[' ≠ c) :
    mark '[' (text.toList ++ c :: more) = none := by
  have read := readV6_of_v6 spelt
  cases chars : text.toList with
  | nil => exact if_neg other
  | cons d rest =>
      refine if_neg ?_
      rintro rfl
      rw [chars, (read_bracket _).2] at read
      cases read

end Texts

theorem value_of_spells {radix read n : Nat} {chars : List Char}
    (spells : Numeral.Spells radix read chars n) :
    chars.foldl (fun n c => n * radix + (Numeral.digit? radix c).getD 0) read = n := by
  induction spells with
  | nil => rfl
  | cons known filled unsigned later ih =>
      rw [List.foldl_cons, known]
      exact ih

theorem digits_of_spells {radix read n : Nat} {chars : List Char}
    (spells : Numeral.Spells radix read chars n) : digits radix chars = (chars, []) := by
  have all : ∀ c ∈ chars, (Numeral.digit? radix c).isSome = true := by
    intro c member
    obtain ⟨digit, known⟩ := spells.exists_digit c member
    rw [known]
    rfl
  rw [digits, List.span_eq_takeWhile_dropWhile, List.takeWhile_eq_self_iff.mpr all,
    List.dropWhile_eq_nil_iff.mpr all]

end Address

namespace Endpoint

open Address

theorem readNumber_toDigits {n bound : Nat} (fits : n ≤ bound) :
    readNumber bound (Nat.toDigits 10 n) = some (n, []) := by
  have spells := Numeral.spells_toDigits n
  have same : value 10 (Nat.toDigits 10 n) = n := value_of_spells spells
  rw [readNumber, digits_of_spells spells]
  simp [same, Nat.not_lt_of_le fits, Nat.toDigits_ne_nil]

theorem readPort_toDigits (port : UInt16) :
    readPort (':' :: Nat.toDigits 10 port.toNat) = some (port, []) := by
  have fits : port.toNat ≤ Numeral.max16 := Nat.le_of_lt_succ port.toNat_lt
  simp [readPort, mark, readNumber_toDigits fits]

end Endpoint

namespace Config

variable (config : Config)

theorem toList_serverAddress : config.serverAddress.toList =
    config.host.toList ++ ':' :: Nat.toDigits 10 config.port.toNat := by
  rw [serverAddress, String.toList_append, String.toList_append, List.append_assoc]
  exact congrArg (config.host.toList ++ ':' :: ·) String.toList_ofList

def bracketedAddress : String := "[" ++ config.host ++ "]:" ++ toString config.port.toNat

theorem toList_bracketedAddress : config.bracketedAddress.toList =
    '[' :: (config.host.toList ++ ']' :: ':' :: Nat.toDigits 10 config.port.toNat) := by
  rw [bracketedAddress, String.toList_append, String.toList_append, String.toList_append,
    List.append_assoc, List.append_assoc]
  exact congrArg (fun port => '[' :: (config.host.toList ++ ']' :: ':' :: port))
    String.toList_ofList

variable {config}

/-- After a host of version 4, the first colon is the one before the port. -/
theorem ofText?_serverAddress_v4 {octets : Vector UInt8 4}
    (spelt : Address.ofText? config.host = some (.v4 octets)) :
    Endpoint.ofText? config.serverAddress = some (.v4 octets config.port) := by
  have stops := Address.readV4_stopsAt (Nat.toDigits 10 config.port.toNat)
    (c := ':') ⟨by decide, by decide⟩
  have host := stops.read (Address.readV4_of_v4 spelt)
  have read : Endpoint.readV4 config.serverAddress.toList =
      some (.v4 octets config.port, []) := by
    simp [toList_serverAddress, Endpoint.readV4, host, Endpoint.readPort_toDigits]
  rw [Endpoint.ofText?, Address.whole_eq_some_iff.mpr read]
  rfl

/-- A host of version 6 neither starts like one of version 4 nor with a bracket. -/
theorem ofText?_serverAddress_v6 {groups : Vector UInt16 8}
    (spelt : Address.ofText? config.host = some (.v6 groups)) :
    Endpoint.ofText? config.serverAddress = none := by
  have stops := Address.readV4_stopsAt (Nat.toDigits 10 config.port.toNat)
    (c := ':') ⟨by decide, by decide⟩
  have dotted : Endpoint.readV4 config.serverAddress.toList = none := by
    rw [toList_serverAddress, Endpoint.readV4, stops, Address.readV4_eq_none_of_v6 spelt]
    rfl
  have bracketed : Endpoint.readV6 config.serverAddress.toList = none := by
    rw [toList_serverAddress, Endpoint.readV6, Address.mark_of_v6 spelt _ (by decide)]
    rfl
  rw [Endpoint.ofText?, Address.whole, Address.whole, dotted, bracketed]
  rfl

theorem ofText?_bracketedAddress {groups : Vector UInt16 8}
    (spelt : Address.ofText? config.host = some (.v6 groups)) :
    Endpoint.ofText? config.bracketedAddress = some (.v6 groups 0 config.port) := by
  have stops := Address.readV6_stopsAt (':' :: Nat.toDigits 10 config.port.toNat)
    (c := ']') ⟨⟨by decide, by decide⟩, by decide, by decide⟩
  have host := stops.read (Address.readV6_of_v6 spelt)
  have read : Endpoint.readV6 config.bracketedAddress.toList =
      some (.v6 groups 0 config.port, []) := by
    simp [toList_bracketedAddress, Endpoint.readV6, Endpoint.readScope, Address.mark, host,
      Endpoint.readPort_toDigits]
  have dotted : Endpoint.readV4 config.bracketedAddress.toList = none := by
    rw [toList_bracketedAddress, Endpoint.readV4, (Address.read_bracket _).1]
    rfl
  rw [Endpoint.ofText?, Address.whole_eq_some_iff.mpr read, Address.whole, dotted]
  rfl

/-- If the host is written as an address, host and port on one line spell the endpoint exactly if that
is one of version 4. With one of version 6 they spell none, for want of the brackets. -/
theorem spells_endpoint_iff (config : Config) {address : Address}
    (literal : Address.ofText? config.host = some address) :
    config.endpoint? = some (.ofAddress address config.port) ∧
      (Endpoint.ofText? config.serverAddress = config.endpoint? ↔
        ∃ octets, address = .v4 octets) ∧
      ∀ groups, address = .v6 groups →
        Endpoint.ofText? config.serverAddress = none ∧
          Endpoint.ofText? config.bracketedAddress = config.endpoint? := by
  have meant : config.endpoint? = some (.ofAddress address config.port) := by
    rw [endpoint?, literal]
    rfl
  refine ⟨meant, ?_, ?_⟩
  · rw [meant]
    cases address with
    | v4 octets => exact ⟨fun _ => ⟨octets, rfl⟩, fun _ => ofText?_serverAddress_v4 literal⟩
    | v6 groups =>
        rw [ofText?_serverAddress_v6 literal]
        exact ⟨nofun, nofun⟩
  · rintro groups rfl
    exact ⟨ofText?_serverAddress_v6 literal, by rw [ofText?_bracketedAddress literal, meant]; rfl⟩

/-- An address of version 6 whose end is written like one of version 4, with the last port. -/
theorem spells_endpoint_embedding :
    let config : Config := { host := "64:FF9B::192.0.2.33", port := 65535 }
    let groups := #v[0x64, 0xff9b, 0, 0, 0, 0, 0xc000, 0x221]
    Address.ofText? config.host = some (.v6 groups) ∧
      config.endpoint? = some (.v6 groups 0 65535) ∧
      Endpoint.ofText? config.serverAddress ≠ config.endpoint? ∧
      Endpoint.ofText? "[64:FF9B::192.0.2.33]:65535" = config.endpoint? := by
  intro config groups
  have literal : Address.ofText? config.host = some (.v6 groups) := by decide
  obtain ⟨meant, spells, alone⟩ := spells_endpoint_iff config literal
  have written : config.bracketedAddress = "[64:FF9B::192.0.2.33]:65535" := by decide
  refine ⟨literal, meant, ?_, ?_⟩
  · intro same
    obtain ⟨octets, other⟩ := spells.mp same
    cases other
  · rw [← written]
    exact (alone groups rfl).2

/-- With the loopback address, the line spells no endpoint but another address, the port being its last
group. -/
theorem loopback_not_spelt :
    let config : Config := { host := "::1" }
    config.serverAddress = "::1:8080" ∧ Endpoint.ofText? "::1:8080" = none ∧
      Address.ofText? "::1:8080" = some (.v6 #v[0, 0, 0, 0, 0, 0, 1, 0x8080]) ∧
      config.endpoint? = some (.v6 #v[0, 0, 0, 0, 0, 0, 0, 1] 0 8080) := by
  decide

end Config

end HttpServer
