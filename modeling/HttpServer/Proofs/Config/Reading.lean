import HttpServer.Proofs.Config.Values

/-! How an environment is read. The settings are read one after another, so that the first
variable, in the order of declaration, whose text has no value is the one reported. If there is
none such, each setting has the value of its own variable, and what a configuration holds is read
back from the texts that show it. -/
namespace HttpServer

section Sequences

variable {α β ε : Type} {f : α → Except ε β}

theorem mapM_eq_ok_map_iff {g : α → β} {items : List α} :
    items.mapM f = .ok (items.map g) ↔ ∀ item ∈ items, f item = .ok (g item) := by
  induction items with
  | nil => simp [pure, Except.pure]
  | cons item items ih =>
      rw [List.mapM_cons, List.map_cons, List.forall_mem_cons, ← ih]
      cases f item with
      | error fault => simp [bind, Except.bind]
      | ok value =>
          cases items.mapM f with
          | error fault => simp [bind, Except.bind]
          | ok values => simp [bind, Except.bind, pure, Except.pure]

/-- A mapping that fails stops at the first element for which there is no value. -/
theorem mapM_eq_error_iff {fault : ε} {items : List α} :
    items.mapM f = .error fault ↔ ∃ before item after, items = before ++ item :: after ∧
      (∀ earlier ∈ before, ∃ value, f earlier = .ok value) ∧ f item = .error fault := by
  induction items with
  | nil => simp [pure, Except.pure]
  | cons item items ih =>
      rw [List.mapM_cons]
      cases first : f item with
      | error other =>
          constructor
          · rintro ⟨⟩
            exact ⟨[], item, items, rfl, nofun, first⟩
          · rintro ⟨before, found, after, same, earlier, fails⟩
            cases before with
            | nil =>
                cases same
                rw [first] at fails
                cases fails
                rfl
            | cons head before =>
                cases same
                obtain ⟨value, read⟩ := earlier item List.mem_cons_self
                rw [first] at read
                cases read
      | ok value =>
          have rest : (do
              let value ← Except.ok value
              let values ← items.mapM f
              pure (value :: values)) = .error fault ↔ items.mapM f = .error fault := by
            cases items.mapM f <;> simp [bind, Except.bind, pure, Except.pure]
          rw [rest, ih]
          constructor
          · rintro ⟨before, found, after, rfl, earlier, fails⟩
            exact ⟨item :: before, found, after, rfl,
              List.forall_mem_cons.mpr ⟨⟨value, first⟩, earlier⟩, fails⟩
          · rintro ⟨before, found, after, same, earlier, fails⟩
            cases before with
            | nil =>
                cases same
                rw [first] at fails
                cases fails
            | cons head before =>
                cases same
                exact ⟨before, found, after, rfl, (List.forall_mem_cons.mp earlier).2, fails⟩

end Sequences

namespace Config

def Environment.held (env : Environment) (setting : Setting) : Except Misread Value :=
  read env setting ((({} : Config)).get setting) setting.value

section Held

variable {α : Type} (env : Environment) (setting : Setting) (g : α → Value)

theorem held_eq (standard : α) (value : String → Except Fault α)
    (starts : ({} : Config).get setting = g standard)
    (reads : ∀ raw, setting.value raw = (value raw).map g) :
    env.held setting = g <$> read env setting standard value := by
  unfold Environment.held read
  cases env setting.key with
  | none => exact congrArg Except.ok starts
  | some raw =>
      dsimp only
      rw [reads]
      cases value raw <;> rfl

end Held

theorem mapM_held (env : Environment) :
    Setting.all.mapM env.held =
      (fun config : Config => Setting.all.map config.get) <$> ofEnvironment env := by
  have texts (setting : Setting) := held_eq env setting .text
  have words64 (setting : Setting) := held_eq env setting fun n : UInt64 => .number n.toNat
  simp only [Setting.all, List.mapM_cons, List.mapM_nil, ofEnvironment,
    texts .name _ .ok rfl fun _ => rfl, texts .host _ .ok rfl fun _ => rfl,
    held_eq env .port (fun n : UInt16 => .number n.toNat) _ word16 rfl fun _ => rfl,
    texts .baseUri _ .ok rfl fun _ => rfl, words64 .threads _ word64 rfl fun _ => rfl,
    words64 .interval _ word64 rfl fun _ => rfl,
    held_eq env .abortsOnExhaustion .flag _ flag rfl fun _ => rfl,
    words64 .maxHeadBytes _ word64 rfl fun _ => rfl,
    words64 .maxBodyBytes _ word64 rfl fun _ => rfl,
    held_eq env .backlog (fun n : Int32 => .number n.toInt) _ signed32 rfl fun _ => rfl,
    bind_map_left, map_bind, map_pure, bind_assoc, pure_bind]
  rfl

theorem ofEnvironment_eq_ok_iff {env : Environment} {config : Config} :
    ofEnvironment env = .ok config ↔ ∀ setting, env.held setting = .ok (config.get setting) := by
  have read := mapM_held env
  constructor
  · intro made setting
    rw [made] at read
    exact mapM_eq_ok_map_iff.mp read setting setting.mem_all
  · intro held
    rw [mapM_eq_ok_map_iff.mpr fun setting _ => held setting] at read
    cases made : ofEnvironment env with
    | error misread =>
        rw [made] at read
        cases read
    | ok other =>
        rw [made] at read
        have same := List.map_inj_left.mp (Except.ok.inj read)
        rw [ext_get (funext fun setting => same setting setting.mem_all)]

theorem ofEnvironment_eq_error_iff {env : Environment} {misread : Misread} :
    ofEnvironment env = .error misread ↔
      ∃ before setting after, Setting.all = before ++ setting :: after ∧
        (∀ earlier ∈ before, ∃ value, env.held earlier = .ok value) ∧
        env.held setting = .error misread := by
  rw [← mapM_eq_error_iff, mapM_held]
  cases ofEnvironment env with
  | error other =>
      constructor
      · rintro ⟨⟩
        rfl
      · rintro ⟨⟩
        rfl
  | ok config => exact ⟨nofun, nofun⟩

/-- The first variable, in the order of declaration, whose text has no value. -/
structure Environment.FirstRefused (env : Environment) (setting : Setting) (raw : String) :
    Prop where
  stored : env setting.key = some raw
  refused : setting.kind.Refuses raw
  first : ∃ before after, Setting.all = before ++ setting :: after ∧
    ∀ earlier ∈ before, ∀ text, env earlier.key = some text → ¬ earlier.kind.Refuses text

/-- What it means that an environment is read setting by setting. -/
structure Environment.IsRead (env : Environment) : Prop where
  /-- A configuration is read back where every variable shows what it holds. -/
  lossless : ∀ config, (∀ setting, ∃ raw, env setting.key = some raw ∧
    (config.get setting).Shows raw) → ofEnvironment env = .ok config
  /-- Nothing but a text that has no value stops the reading. -/
  fails : (∃ misread, ofEnvironment env = .error misread) ↔
    ∃ (setting : Setting) (raw : String), env setting.key = some raw ∧ setting.kind.Refuses raw
  /-- The first variable with such a text is the one that is named, with this text. -/
  first : ∀ misread, ofEnvironment env = .error misread →
    env.FirstRefused misread.setting misread.raw ∧ ∃ reason, misread.toServerError = .config
      (misread.setting.key ++ "=" ++ Text.quoted misread.raw ++ ": " ++ reason)
  /-- A setting whose variable is unset keeps its standard; any other has the value of its text. -/
  settled : ∀ config, ofEnvironment env = .ok config → ∀ setting,
    match env setting.key with
    | none => config.get setting = ({} : Config).get setting
    | some raw => setting.kind.Denotes raw (config.get setting)
  /-- A setting has to do with no variable but its own. -/
  own : ∀ other first second, ofEnvironment env = .ok first → ofEnvironment other = .ok second →
    ∀ setting, env setting.key = other setting.key → first.get setting = second.get setting

section Held

variable {env : Environment} {setting : Setting}

theorem held_unset (unset : env setting.key = none) :
    env.held setting = .ok (({} : Config).get setting) := by
  rw [Environment.held, read, unset]

theorem held_set {raw : String} (stored : env setting.key = some raw) {value : Value} :
    env.held setting = .ok value ↔ setting.kind.Denotes raw value := by
  rw [Environment.held, read, stored, ← value_eq_ok_iff]
  dsimp only
  cases setting.value raw <;> simp

theorem held_eq_error_iff {misread : Misread} :
    env.held setting = .error misread ↔ misread.setting = setting ∧
      env setting.key = some misread.raw ∧ setting.value misread.raw = .error misread.fault := by
  unfold Environment.held read
  cases env setting.key with
  | none => exact ⟨nofun, nofun⟩
  | some raw =>
      dsimp only
      constructor
      · intro fails
        cases found : setting.value raw with
        | ok value =>
            rw [found] at fails
            cases fails
        | error fault =>
            rw [found] at fails
            cases fails
            exact ⟨rfl, rfl, found⟩
      · rintro ⟨rfl, stored, fails⟩
        cases stored
        rw [fails]

theorem exists_held_iff :
    (∃ value, env.held setting = .ok value) ↔
      ∀ raw, env setting.key = some raw → ¬ setting.kind.Refuses raw := by
  cases stored : env setting.key with
  | none => exact ⟨fun _ => nofun, fun _ => ⟨_, held_unset stored⟩⟩
  | some raw =>
      simp only [held_set stored, Option.some.injEq, forall_eq', Kind.refuses_iff, not_forall,
        not_not]

theorem get_eq_of_same {other : Environment} {first second : Config}
    (made : ofEnvironment env = .ok first) (others : ofEnvironment other = .ok second)
    (same : env setting.key = other setting.key) : first.get setting = second.get setting := by
  have held := ofEnvironment_eq_ok_iff.mp made setting
  have alike : env.held setting = other.held setting := by
    rw [Environment.held, Environment.held, read, read, same]
  rw [alike, ofEnvironment_eq_ok_iff.mp others setting] at held
  exact (Except.ok.inj held).symm

end Held

section Refused

variable {env : Environment} {setting : Setting} {raw : String}

theorem firstRefused_of_error {misread : Misread} (fails : ofEnvironment env = .error misread) :
    env.FirstRefused misread.setting misread.raw := by
  obtain ⟨before, setting, after, all, earlier, fails⟩ := ofEnvironment_eq_error_iff.mp fails
  obtain ⟨rfl, stored, fails⟩ := held_eq_error_iff.mp fails
  refine ⟨stored, exists_error_iff.mp ⟨_, fails⟩, before, after, all, ?_⟩
  exact fun setting member => exists_held_iff.mp (earlier setting member)

theorem Environment.FirstRefused.exists_error (refused : env.FirstRefused setting raw) :
    ∃ fault, setting.value raw = .error fault ∧
      ofEnvironment env = .error ⟨setting, raw, fault⟩ := by
  obtain ⟨fault, fails⟩ := exists_error_iff.mpr refused.refused
  obtain ⟨before, after, all, earlier⟩ := refused.first
  have reported : env.held setting = .error ⟨setting, raw, fault⟩ :=
    held_eq_error_iff.mpr ⟨rfl, refused.stored, fails⟩
  exact ⟨fault, fails, ofEnvironment_eq_error_iff.mpr ⟨before, setting, after, all,
    fun setting member => exists_held_iff.mpr (earlier setting member), reported⟩⟩

end Refused

/-- Every environment is read setting by setting. -/
theorem isRead_ofEnvironment (env : Environment) : env.IsRead where
  lossless config shown := by
    rw [ofEnvironment_eq_ok_iff]
    intro setting
    obtain ⟨raw, stored, shows⟩ := shown setting
    exact (held_set stored).mpr ((holds_get config setting).denotes shows)
  fails := by
    constructor
    · rintro ⟨misread, fails⟩
      have refused := firstRefused_of_error fails
      exact ⟨_, _, refused.stored, refused.refused⟩
    · rintro ⟨setting, raw, stored, refuses⟩
      cases made : ofEnvironment env with
      | error misread => exact ⟨misread, rfl⟩
      | ok config =>
          have denotes := (held_set stored).mp (ofEnvironment_eq_ok_iff.mp made setting)
          exact absurd denotes (Kind.refuses_iff.mp refuses _)
  first _ fails := ⟨firstRefused_of_error fails, _, rfl⟩
  settled config made setting := by
    have held := ofEnvironment_eq_ok_iff.mp made setting
    split
    · next unset =>
      rw [held_unset unset] at held
      exact (Except.ok.inj held).symm
    · next raw stored => exact (held_set stored).mp held
  own _ _ _ made others _ same := get_eq_of_same made others same

example : ofEnvironment (fun key => if key = "RONDO_PORT" then some " +08081\t"
    else if key = "RONDO_BACKLOG" then some "-0" else none) =
    .ok { port := 8081, backlog := 0 } := by
  decide +kernel

end Config
end HttpServer
