import HttpServer.Config
import HttpServer.Proofs.Config.Numbers

/-! What settings hold. Each setting is of one kind, and a text has at most one value as a setting
of that kind. The text that shows a value has this value. -/
namespace HttpServer

namespace Config

inductive Value where
  | text (text : String)
  | number (n : Int)
  | flag (on : Bool)
  deriving DecidableEq, Repr

def get (config : Config) : Setting → Value
  | .name => .text config.name
  | .host => .text config.host
  | .port => .number config.port.toNat
  | .baseUri => .text config.baseUri
  | .threads => .number config.threads.toNat
  | .interval => .number config.intervalMilliseconds.toNat
  | .abortsOnExhaustion => .flag config.abortsOnExhaustion
  | .maxHeadBytes => .number config.maxHeadBytes.toNat
  | .maxBodyBytes => .number config.maxBodyBytes.toNat
  | .backlog => .number config.backlog.toInt

theorem ext_get {first second : Config} (same : first.get = second.get) : first = second := by
  have each (setting : Setting) : first.get setting = second.get setting := congrFun same setting
  have text {old new : String} (h : Value.text old = .text new) : old = new := Value.text.inj h
  have number {old new : Int} (h : Value.number old = .number new) : old = new := Value.number.inj h
  have word {old new : UInt64} (h : Value.number old.toNat = .number new.toNat) : old = new :=
    UInt64.toNat.inj (Int.ofNat.inj (number h))
  cases first
  cases second
  rw [mk.injEq]
  exact ⟨text (each .name), text (each .host),
    UInt16.toNat.inj (Int.ofNat.inj (number (each .port))), text (each .baseUri),
    word (each .threads), word (each .interval),
    Value.flag.inj (each .abortsOnExhaustion), word (each .maxHeadBytes),
    word (each .maxBodyBytes), Int32.toInt.inj (number (each .backlog))⟩

/-- The kinds of settings. A number has bounds, which are allowed as well. -/
inductive Kind where
  | text
  | number (least greatest : Int)
  | flag
  deriving DecidableEq, Repr

def Setting.kind : Setting → Kind
  | .name | .host | .baseUri => .text
  | .port => .number 0 Numeral.max16
  | .threads | .interval | .maxHeadBytes | .maxBodyBytes => .number 0 Numeral.max64
  | .abortsOnExhaustion => .flag
  | .backlog => .number (-(Numeral.maxSigned32 + 1)) Numeral.maxSigned32

def words : Bool → List String
  | true => ["true", "1", "yes", "on"]
  | false => ["false", "0", "no", "off", ""]

/-- The value that a text has as a setting of some kind. -/
inductive Kind.Denotes : Kind → String → Value → Prop
  | text {raw : String} : Denotes .text raw (.text raw)
  | number {least greatest n : Int} {raw : String}
      (writes : Numeral.Writes (least < 0) (Text.trim raw).toList n)
      (above : least ≤ n) (below : n ≤ greatest) : Denotes (.number least greatest) raw (.number n)
  | flag {on : Bool} {raw : String}
      (word : String.ofList (Text.caseless (Text.trim raw)) ∈ words on) :
      Denotes .flag raw (.flag on)

def Setting.value : Setting → String → Except Fault Value
  | .name | .host | .baseUri => fun raw => .ok (.text raw)
  | .port => fun raw => (word16 raw).map fun n => .number n.toNat
  | .threads | .interval | .maxHeadBytes | .maxBodyBytes =>
      fun raw => (word64 raw).map fun n => .number n.toNat
  | .abortsOnExhaustion => fun raw => (flag raw).map .flag
  | .backlog => fun raw => (signed32 raw).map fun n => .number n.toInt

theorem denotes_number_iff {least greatest : Int} {raw : String} {value : Value} :
    (Kind.number least greatest).Denotes raw value ↔
      ∃ n, (Numeral.Writes (least < 0) (Text.trim raw).toList n ∧ least ≤ n ∧ n ≤ greatest) ∧
        .number n = value := by
  constructor
  · intro denotes
    cases denotes with
    | number writes above below => exact ⟨_, ⟨writes, above, below⟩, rfl⟩
  · rintro ⟨n, ⟨writes, above, below⟩, rfl⟩
    exact .number writes above below

theorem natural_eq_ok_iff {bound : Nat} {raw : String} {n : Nat} :
    natural bound raw = .ok n ↔ Numeral.Writes False (Text.trim raw).toList n ∧ n ≤ bound := by
  rw [← Numeral.natural_eq_ok_iff_writes, natural]
  cases Numeral.natural 10 bound (Text.trim raw) <;> simp [Except.mapError]

theorem denotes_natural_iff {bound : Nat} {raw : String} {value : Value} :
    (Kind.number 0 bound).Denotes raw value ↔
      ∃ n : Nat, natural bound raw = .ok n ∧ .number n = value := by
  have unsigned : ((0 : Int) < 0) = False := eq_false (Int.lt_irrefl 0)
  rw [denotes_number_iff, unsigned]
  simp only [natural_eq_ok_iff]
  constructor
  · rintro ⟨n, ⟨writes, above, below⟩, rfl⟩
    obtain ⟨k, rfl⟩ := Int.eq_ofNat_of_zero_le above
    exact ⟨k, ⟨writes, Int.ofNat_le.mp below⟩, rfl⟩
  · rintro ⟨k, ⟨writes, below⟩, rfl⟩
    exact ⟨k, ⟨writes, Int.natCast_nonneg k, Int.ofNat_le.mpr below⟩, rfl⟩

theorem word_iff {α : Type} {ofNat : Nat → α} {toNat : α → Nat} {bound : Nat}
    (kept : ∀ n ≤ bound, toNat (ofNat n) = n) {raw : String} {value : Value} :
    ((natural bound raw).map ofNat).map (fun n => .number (toNat n)) = .ok value ↔
      (Kind.number 0 bound).Denotes raw value := by
  rw [denotes_natural_iff, map_eq_ok_iff]
  simp only [map_eq_ok_iff, exists_exists_and_eq_and]
  refine exists_congr fun n => and_congr_right fun read => ?_
  rw [kept n (natural_eq_ok_iff.mp read).2]

theorem word16_iff {raw : String} {value : Value} :
    (word16 raw).map (fun n => .number n.toNat) = .ok value ↔
      (Kind.number 0 Numeral.max16).Denotes raw value :=
  word_iff fun _ fits => UInt16.toNat_ofNat_of_lt' (Nat.lt_succ_of_le fits)

theorem word64_iff {raw : String} {value : Value} :
    (word64 raw).map (fun n => .number n.toNat) = .ok value ↔
      (Kind.number 0 Numeral.max64).Denotes raw value :=
  word_iff fun _ fits => UInt64.toNat_ofNat_of_lt' (Nat.lt_succ_of_le fits)

theorem signed32_iff {raw : String} {value : Value} :
    (signed32 raw).map (fun n => .number n.toInt) = .ok value ↔
      (Kind.number (-(Numeral.maxSigned32 + 1)) Numeral.maxSigned32).Denotes raw value := by
  have signed : (-((Numeral.maxSigned32 : Int) + 1) < 0) = True := eq_true (by decide)
  have opened (n : Int32) : signed32 raw = .ok n ↔
      ∃ k, Numeral.integer (Numeral.maxSigned32 + 1) Numeral.maxSigned32 (Text.trim raw) = .ok k ∧
        k.toInt32 = n := by
    unfold signed32
    split <;> simp [*]
  rw [denotes_number_iff, map_eq_ok_iff, signed]
  simp only [opened, Numeral.integer_eq_ok_iff, exists_exists_and_eq_and]
  refine exists_congr fun n => and_congr_right fun ⟨_, least, greatest⟩ => ?_
  have same : n.toInt32.toInt = n := Int32.toInt_ofInt_of_le least (Int.lt_add_one_of_le greatest)
  rw [same]

theorem flag_eq_ok_iff {raw : String} {on : Bool} :
    flag raw = .ok on ↔ String.ofList (Text.caseless (Text.trim raw)) ∈ words on := by
  -- No word is one for both truth values.
  have apart : ∀ word ∈ words true, word ∉ words false := by decide
  unfold flag
  dsimp only
  generalize String.ofList (Text.caseless (Text.trim raw)) = word
  change (if (words true).contains word then (.ok true : Except Fault Bool)
    else if (words false).contains word then .ok false else .error .notABoolean) = _ ↔ _
  simp only [List.contains_iff_mem]
  split
  · next yes => cases on <;> simp [yes, apart word yes]
  · next no =>
    split
    · next off => cases on <;> simp [no, off]
    · next off => cases on <;> simp [no, off]

theorem flag_iff {raw : String} {value : Value} :
    (flag raw).map .flag = .ok value ↔ Kind.flag.Denotes raw value := by
  rw [map_eq_ok_iff]
  constructor
  · rintro ⟨on, read, rfl⟩
    exact .flag (flag_eq_ok_iff.mp read)
  · intro denotes
    cases denotes with
    | flag word => exact ⟨_, flag_eq_ok_iff.mpr word, rfl⟩

theorem text_iff {raw : String} {value : Value} :
    (.ok (.text raw) : Except Fault Value) = .ok value ↔ Kind.text.Denotes raw value := by
  constructor
  · rintro ⟨⟩
    exact .text
  · rintro ⟨⟩
    rfl

theorem value_eq_ok_iff {setting : Setting} {raw : String} {value : Value} :
    setting.value raw = .ok value ↔ setting.kind.Denotes raw value := by
  cases setting with
  | name | host | baseUri => rw [Setting.value, Setting.kind, text_iff]
  | port => rw [Setting.value, Setting.kind, word16_iff]
  | threads | interval | maxHeadBytes | maxBodyBytes =>
      rw [Setting.value, Setting.kind, word64_iff]
  | abortsOnExhaustion => rw [Setting.value, Setting.kind, flag_iff]
  | backlog => rw [Setting.value, Setting.kind, signed32_iff]

/-- Texts of a kind of setting that have no value. Nothing is wrong with any text as such. -/
def Kind.Refuses : Kind → String → Prop
  | .text, _ => False
  | .number least greatest, raw =>
      ¬ ∃ n, Numeral.Writes (least < 0) (Text.trim raw).toList n ∧ least ≤ n ∧ n ≤ greatest
  | .flag, raw => ¬ ∃ on, String.ofList (Text.caseless (Text.trim raw)) ∈ words on

theorem Kind.refuses_iff {kind : Kind} {raw : String} :
    kind.Refuses raw ↔ ∀ value, ¬ kind.Denotes raw value := by
  rw [← not_exists]
  cases kind with
  | text => exact ⟨False.elim, fun none => none ⟨_, .text⟩⟩
  | number least greatest =>
      refine not_congr ⟨?_, ?_⟩
      · rintro ⟨n, writes, above, below⟩
        exact ⟨_, .number writes above below⟩
      · rintro ⟨_, denotes⟩
        obtain ⟨n, number, _⟩ := denotes_number_iff.mp denotes
        exact ⟨n, number⟩
  | flag =>
      refine not_congr ⟨?_, ?_⟩
      · rintro ⟨on, word⟩
        exact ⟨_, .flag word⟩
      · rintro ⟨_, denotes⟩
        cases denotes with
        | flag word => exact ⟨_, word⟩

theorem exists_error_iff {setting : Setting} {raw : String} :
    (∃ fault, setting.value raw = .error fault) ↔ setting.kind.Refuses raw := by
  rw [Kind.refuses_iff]
  simp only [← value_eq_ok_iff]
  cases setting.value raw <;> simp

def Kind.Holds : Kind → Value → Prop
  | .text, .text _ | .flag, .flag _ => True
  | .number least greatest, .number n => least ≤ n ∧ n ≤ greatest
  | _, _ => False

theorem holds_get (config : Config) (setting : Setting) :
    setting.kind.Holds (config.get setting) := by
  have word (n : UInt64) : (0 : Int) ≤ n.toNat ∧ (n.toNat : Int) ≤ Numeral.max64 :=
    ⟨Int.natCast_nonneg _, Int.ofNat_le.mpr (Nat.le_of_lt_succ n.toNat_lt)⟩
  cases setting with
  | name | host | baseUri | abortsOnExhaustion => trivial
  | port => exact ⟨Int.natCast_nonneg _, Int.ofNat_le.mpr (Nat.le_of_lt_succ config.port.toNat_lt)⟩
  | threads | interval | maxHeadBytes | maxBodyBytes => exact word _
  | backlog => exact ⟨config.backlog.le_toInt, Int.le_of_lt_add_one config.backlog.toInt_lt⟩

/-- The texts that show a value: a text shows itself, and there may be blanks around a number or
a truth value. -/
inductive Value.Shows : Value → String → Prop
  | text {text : String} : Shows (.text text) text
  | number {n : Int} {before after : List Char} (opens : ∀ c ∈ before, Text.isBlank c = true)
      (closes : ∀ c ∈ after, Text.isBlank c = true) :
      Shows (.number n) (String.ofList (before ++ (toString n).toList ++ after))
  | flag {on : Bool} {before after : List Char} (opens : ∀ c ∈ before, Text.isBlank c = true)
      (closes : ∀ c ∈ after, Text.isBlank c = true) :
      Shows (.flag on) (String.ofList (before ++ (toString on).toList ++ after))

theorem Kind.Holds.denotes {kind : Kind} {value : Value} {raw : String} (holds : kind.Holds value)
    (shows : value.Shows raw) : kind.Denotes raw value := by
  cases shows with
  | text =>
      cases kind with
      | text => exact .text
      | number | flag => exact holds.elim
  | @number n before after opens closes =>
      cases kind with
      | text | flag => exact holds.elim
      | number least greatest =>
          have writes : Numeral.Writes (least < 0) (toString n).toList n :=
            Numeral.writes_toString (Int.lt_of_le_of_lt holds.1)
          refine .number ?_ holds.1 holds.2
          rw [Text.trim, String.toList_ofList, String.toList_ofList, Text.trimChars,
            trim_among opens writes.filled closes]
          exact writes
  | @flag on before after opens closes =>
      cases kind with
      | text | number => exact holds.elim
      | flag =>
          have filled : ∀ c ∈ (toString on).toList, Text.isBlank c = false := by
            intro c member
            have none : (toString on).toList.any Text.isBlank = false := by cases on <;> decide
            exact Bool.eq_false_iff.mpr (List.any_eq_false.mp none c member)
          refine .flag ?_
          rw [Text.caseless, Text.trim, String.toList_ofList, String.toList_ofList, Text.trimChars,
            trim_among opens filled closes]
          cases on <;> decide

end Config
end HttpServer
