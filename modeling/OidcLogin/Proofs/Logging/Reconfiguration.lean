import Mathlib.Data.List.Basic
import Mathlib.Data.List.Nodup
import OidcLogin.Logging.Setup
import OidcLogin.Proofs.Text.Casing

namespace OidcLogin.Logging

-- A call that sets up the log: the environment that it finds, and what becomes of opening a file.
structure Call where
  environment : Environment
  openFile : Text → Except Text Unit

-- The level that is asked for, in letters of any case.
inductive Environment.Names (e : Environment) : Level → Prop
  | known {name : Text} {level : Level} : e.level = some name → level ∈ Level.standard → level.name = name.capitals →
      Names e level
  | unknown {name : Text} : e.level = some name → (∀ level ∈ Level.standard, level.name ≠ name.capitals) →
      Names e .info
  | unset : e.level = none → Names e .info

def Call.AsksForJson (call : Call) : Prop := ∃ asked, call.environment.json = some asked ∧ asked.small = "true"

def Call.Opens (call : Call) (path : Text) : Prop :=
  call.environment.file = some path ∧ path ≠ [] ∧ call.openFile path = .ok ()

-- The number and the name of a library's record go together: either libraries know the number by this name, or the
-- name means nothing here.
def Level.IsUsual (name : Text) (number : Int) : Prop :=
  (∃ level ∈ ofLibraries, level.name = name ∧ level.number = number) ∨ ∀ level ∈ standard, level.name ≠ name

namespace Setup

def after (s : Setup) (calls : List Call) : Setup :=
  calls.foldl (fun s call => (s.configure call.environment call.openFile).1) s

-- One sink for the console, one for a file that could be opened, and one gate, all from the level on.
structure Follows (s : Setup) (call : Call) (level : Level) : Prop where
  console : ∃ target, s.sinks.filter (·.target.isConsole) = [⟨target, level.number⟩]
    ∧ (target = .standardOutput ↔ call.AsksForJson) ∧ (target.isJson = true ↔ call.AsksForJson)
  file : ∀ path, call.Opens path → s.sinks.filter (!·.target.isConsole) = [⟨.file path, level.number⟩]
  noFile : (∀ path, ¬ call.Opens path) → s.sinks.filter (!·.target.isConsole) = []
  handlers : s.libraryHandlers = [.intercepting]
  gate : s.libraryThreshold = level.number

-- An entry was handed to every sink once, if its number reaches the threshold, and to none otherwise.
structure HandsOut (s : Setup) (threshold number : Int) (entry : Entry) (told : List Delivery) : Prop where
  once : threshold ≤ number → ∀ sink ∈ s.sinks, told.count ⟨sink, entry⟩ = 1
  only : ∀ delivery ∈ told, delivery.sink ∈ s.sinks ∧ delivery.entry = entry
  otherwise : number < threshold → told = []

end Setup

namespace Level

variable {level : Level} {name : Text} {number : Int}

theorem number_pos : ∀ level ∈ standard, 0 < level.number := by
  decide

theorem mem_standard_of_mem : ∀ level ∈ ofLibraries, level ∈ standard := by
  decide

theorem named?_eq_some : named? name = some level ↔ level ∈ standard ∧ level.name = name := by
  constructor
  · intro found
    exact ⟨List.mem_of_find?_eq_some found, by simpa using List.find?_some found⟩
  · rintro ⟨known, rfl⟩
    exact named?_name known

theorem named?_eq_none : named? name = none ↔ ∀ level ∈ standard, level.name ≠ name := by
  simp [named?, List.find?_eq_none]

theorem number_ofRecord (usual : IsUsual name number) : (ofRecord name number).number = number := by
  unfold ofRecord
  rcases usual with ⟨level, known, named, numbered⟩ | unknown
  · rw [named?_eq_some.2 ⟨mem_standard_of_mem level known, named⟩]
    exact numbered
  · rw [named?_eq_none.2 unknown]
    rfl

theorem isUsual_ofLibrary (number : Int) : IsUsual (ofLibrary number).name number := by
  unfold ofLibrary
  cases found : ofLibraries.find? (·.number = number) with
  | some level =>
    exact .inl ⟨level, List.mem_of_find?_eq_some found, rfl, by simpa using List.find?_some found⟩
  | none =>
    refine .inr fun level known same => ?_
    have letter : ∀ level ∈ standard, level.name.head? ≠ some (CodePoint.ofChar 'L') := by decide
    refine letter level known ?_
    rw [same]
    rfl

end Level

namespace Environment

variable {e : Environment} {level : Level}

theorem names_iff : e.Names level ↔ level = e.threshold := by
  unfold threshold
  constructor
  · rintro (⟨asked, known, named⟩ | ⟨asked, unknown⟩ | unset)
    · rw [asked, Option.bind_some, Level.named?_eq_some.2 ⟨known, named⟩]
      rfl
    · rw [asked, Option.bind_some, Level.named?_eq_none.2 unknown]
      rfl
    · rw [unset]
      rfl
  · rintro rfl
    cases asked : e.level with
    | none => exact .unset asked
    | some name =>
      rw [Option.bind_some]
      cases found : Level.named? name.capitals with
      | none => exact .unknown asked (Level.named?_eq_none.1 found)
      | some level =>
        obtain ⟨known, named⟩ := Level.named?_eq_some.1 found
        exact .known asked known named

theorem number_pos_of_names (names : e.Names level) : 0 < level.number := by
  cases names with
  | known _ known _ => exact Level.number_pos level known
  | unknown _ _ | unset _ => decide

end Environment

namespace Call

variable {call : Call} {path : Text}

theorem isJson_iff : call.environment.isJson = true ↔ call.AsksForJson := by
  have plain : ∀ d ∈ Text.ofString "true", d.IsPlain := by decide
  unfold Environment.isJson AsksForJson
  rw [decide_eq_true_eq]
  cases call.environment.json with
  | none => exact iff_of_false (by decide) (by simp)
  | some asked => simp [Text.small_eq_iff plain]

theorem file_isConsole (path : Text) : (Target.file path).isConsole = false := rfl

theorem console_isConsole (call : Call) : call.environment.console.isConsole = true := by
  unfold Environment.console
  split <;> rfl

theorem console_eq_iff : call.environment.console = .standardOutput ↔ call.AsksForJson := by
  rw [← isJson_iff]
  unfold Environment.console
  split <;> simp_all

theorem console_isJson_iff : call.environment.console.isJson = true ↔ call.AsksForJson := by
  rw [← isJson_iff]
  unfold Environment.console
  split <;> simp_all [Target.isJson]

theorem Opens.unique {other : Text} (opens : call.Opens path) (again : call.Opens other) : other = path :=
  Option.some.inj (again.1.symm.trans opens.1)

theorem opens_of_path? (asked : call.environment.path? = some path) (opened : call.openFile path = .ok ()) :
    call.Opens path := by
  unfold Environment.path? at asked
  split at asked
  · cases asked
  · cases asked
  · rename_i notEmpty
    exact ⟨asked, fun empty => notEmpty (empty ▸ asked), opened⟩

theorem Opens.path?_eq (opens : call.Opens path) : call.environment.path? = some path := by
  obtain ⟨asked, full, _⟩ := opens
  unfold Environment.path?
  rw [asked]
  split
  · contradiction
  · rename_i empty
    exact absurd (Option.some.inj empty) full
  · rfl

end Call

namespace Setup

variable {s : Setup} {call : Call} {path : Text} {level : Level} {entry : Entry}

theorem configure_of_opens (opens : call.Opens path) :
    (s.configure call.environment call.openFile).1
      = ⟨[⟨call.environment.console, call.environment.threshold.number⟩, ⟨.file path, call.environment.threshold.number⟩],
        [.intercepting], call.environment.threshold.number⟩ := by
  unfold configure addFile
  rw [opens.path?_eq]
  dsimp only
  rw [opens.2.2]
  rfl

theorem configure_of_not_opens (shut : ∀ path, ¬ call.Opens path) :
    (s.configure call.environment call.openFile).1
      = ⟨[⟨call.environment.console, call.environment.threshold.number⟩], [.intercepting],
        call.environment.threshold.number⟩ := by
  unfold configure addFile
  cases asked : call.environment.path? with
  | none => rfl
  | some path =>
    dsimp only
    cases opened : call.openFile path with
    | ok _ => exact absurd (Call.opens_of_path? asked opened) (shut path)
    | error _ => rfl

-- A call makes the same setup out of any other.
theorem configure_eq_configure (s s' : Setup) (call : Call) :
    (s.configure call.environment call.openFile).1 = (s'.configure call.environment call.openFile).1 := by
  by_cases opens : ∃ path, call.Opens path
  · obtain ⟨path, opens⟩ := opens
    rw [configure_of_opens opens, configure_of_opens opens]
  · rw [configure_of_not_opens (not_exists.1 opens), configure_of_not_opens (not_exists.1 opens)]

theorem after_concat (s : Setup) (earlier : List Call) (last : Call) :
    s.after (earlier ++ [last]) = ((s.after earlier).configure last.environment last.openFile).1 :=
  List.foldl_concat ..

theorem configure_follows (s : Setup) (call : Call) :
    (s.configure call.environment call.openFile).1.Follows call call.environment.threshold := by
  have console := call.console_isConsole
  by_cases opens : ∃ path, call.Opens path
  · obtain ⟨path, opens⟩ := opens
    rw [configure_of_opens opens]
    exact {
      console := ⟨call.environment.console, by simp [console, Call.file_isConsole], Call.console_eq_iff,
        Call.console_isJson_iff⟩
      file := fun other again => by simp [console, Call.file_isConsole, opens.unique again]
      noFile := fun shut => absurd opens (shut path)
      handlers := rfl
      gate := rfl }
  · have shut := not_exists.1 opens
    rw [configure_of_not_opens shut]
    exact {
      console := ⟨call.environment.console, by simp [console], Call.console_eq_iff, Call.console_isJson_iff⟩
      file := fun path opens => absurd opens (shut path)
      noFile := fun _ => by simp [console]
      handlers := rfl
      gate := rfl }

namespace Follows

theorem sinks_perm (follows : s.Follows call level) :
    ∃ targets : List Target, targets.Nodup ∧ s.sinks.Perm (targets.map (⟨·, level.number⟩)) := by
  obtain ⟨target, console, _, _⟩ := follows.console
  have parts := (List.filter_append_perm (·.target.isConsole) s.sinks).symm
  rw [console] at parts
  by_cases opens : ∃ path, call.Opens path
  · obtain ⟨path, opens⟩ := opens
    rw [follows.file path opens] at parts
    have shown : (⟨target, level.number⟩ : Sink) ∈ s.sinks.filter (·.target.isConsole) :=
      console ▸ List.mem_singleton_self _
    have different : target ≠ .file path := by
      rintro rfl
      exact absurd (List.mem_filter.1 shown).2 (by simp [Call.file_isConsole])
    exact ⟨[target, .file path], by simp [different], parts⟩
  · rw [follows.noFile (not_exists.1 opens)] at parts
    exact ⟨[target], List.nodup_singleton _, parts⟩

theorem threshold_of_mem (follows : s.Follows call level) : ∀ sink ∈ s.sinks, sink.threshold = level.number := by
  intro sink member
  obtain ⟨targets, _, same⟩ := follows.sinks_perm
  obtain ⟨target, _, rfl⟩ := List.mem_map.1 (same.mem_iff.1 member)
  rfl

theorem nodup_sinks (follows : s.Follows call level) : s.sinks.Nodup := by
  obtain ⟨targets, distinct, same⟩ := follows.sinks_perm
  exact same.nodup_iff.2 (distinct.map fun _ _ equal => congrArg Sink.target equal)

theorem handsOut_deliver (follows : s.Follows call level) (entry : Entry) :
    s.HandsOut level.number entry.level.number entry (s.deliver entry) where
  once reaches sink member := by
    have all : s.sinks.filter (fun sink => decide (sink.threshold ≤ entry.level.number)) = s.sinks :=
      List.filter_eq_self.2 fun sink member => by simpa [follows.threshold_of_mem sink member] using reaches
    unfold deliver
    rw [all]
    have distinct : (s.sinks.map (Delivery.mk · entry)).Nodup :=
      follows.nodup_sinks.map fun _ _ equal => congrArg Delivery.sink equal
    exact List.count_eq_one_of_mem distinct (List.mem_map.2 ⟨sink, member, rfl⟩)
  only delivery member := by
    obtain ⟨sink, kept, rfl⟩ := List.mem_map.1 member
    exact ⟨(List.mem_filter.1 kept).1, rfl⟩
  otherwise below := by
    unfold deliver
    rw [List.map_eq_nil_iff, List.filter_eq_nil_iff]
    intro sink member
    simpa [follows.threshold_of_mem sink member] using below

theorem emit_eq_ok (follows : s.Follows call level) {choice : LevelChoice} {given : Level}
    (resolved : choice.resolve = .ok given) (message : Text) (traced : Bool) :
    s.emit choice message traced = .ok (s.deliver ⟨given, message, none, traced⟩) := by
  obtain ⟨target, console, _, _⟩ := follows.console
  have full : s.sinks ≠ [] := by
    rintro empty
    rw [empty] at console
    cases console
  unfold emit
  rw [if_neg (by simpa using full), resolved]
  rfl

theorem admits_eq (follows : s.Follows call level) (positive : 0 < level.number) (number : Int) :
    s.admits number = decide (level.number ≤ number) := by
  unfold admits
  rw [follows.gate, Bool.and_eq_right_iff_imp]
  intro reaches
  rw [decide_eq_true_eq] at reaches ⊢
  omega

theorem emitNamed_eq_ok (follows : s.Follows call level) (positive : 0 < level.number) {name : Text} {number : Int}
    {template message : Text} {arguments : List Json} (made : Template.message template arguments = .ok message)
    (usual : Level.IsUsual name number) (failure : Option Text) (traced : Bool) :
    s.emitNamed name number template arguments failure traced
      = .ok (s.deliver ⟨.ofRecord name number, message, failure, traced⟩) := by
  have keeps := Level.number_ofRecord usual
  unfold emitNamed
  rw [follows.admits_eq positive, made, follows.handlers]
  split
  · simp [handleWith]
  · rename_i below
    have nothing := (follows.handsOut_deliver ⟨.ofRecord name number, message, failure, traced⟩).otherwise
    rw [nothing (by simpa [keeps] using below)]

theorem emitNamed_of_fault (follows : s.Follows call level) (positive : 0 < level.number) {template : Text}
    {arguments : List Json} {fault : TemplateFault} (faulty : Template.message template arguments = .error fault)
    (name : Text) (number : Int) (failure : Option Text) (traced : Bool) :
    s.emitNamed name number template arguments failure traced
      = if level.number ≤ number then .error (.template fault) else .ok [] := by
  unfold emitNamed
  rw [follows.admits_eq positive, faulty]
  simp only [decide_eq_true_eq]

end Follows

-- Every sequence of calls with this one last leads to one setup.  It follows the last call, and every record comes
-- from it to each sink once if its number reaches the level, but for a library's record whose message cannot be made.
theorem after_last_call (last : Call) :
    ∃ settled level, (∀ (s : Setup) (earlier : List Call), s.after (earlier ++ [last]) = settled)
      ∧ last.environment.Names level ∧ settled.Follows last level
      ∧ (∀ (choice : LevelChoice) (given : Level) (message : Text) (traced : Bool), choice.resolve = .ok given →
        ∃ told, settled.emit choice message traced = .ok told
          ∧ settled.HandsOut level.number given.number ⟨given, message, none, traced⟩ told)
      ∧ ∀ (name : Text) (number : Int) (template : Text) (arguments : List Json) (failure : Option Text) (traced : Bool),
        Level.IsUsual name number →
          (∀ message, Template.message template arguments = .ok message →
            ∃ told, settled.emitNamed name number template arguments failure traced = .ok told
              ∧ settled.HandsOut level.number number ⟨.ofRecord name number, message, failure, traced⟩ told)
          ∧ ∀ fault, Template.message template arguments = .error fault →
            settled.emitNamed name number template arguments failure traced
              = if level.number ≤ number then .error (.template fault) else .ok [] := by
  have names := Environment.names_iff.2 (rfl : last.environment.threshold = _)
  have positive := Environment.number_pos_of_names names
  have follows := configure_follows ⟨[], [], 0⟩ last
  refine ⟨_, _, fun s earlier => ?_, names, follows, ?_, ?_⟩
  · rw [after_concat]
    exact configure_eq_configure _ _ _
  · intro choice given message traced resolved
    exact ⟨_, follows.emit_eq_ok resolved message traced, follows.handsOut_deliver ⟨given, message, none, traced⟩⟩
  · intro name number template arguments failure traced usual
    constructor
    · intro message made
      have handed := follows.handsOut_deliver ⟨.ofRecord name number, message, failure, traced⟩
      rw [Level.number_ofRecord usual] at handed
      exact ⟨_, follows.emitNamed_eq_ok positive made usual failure traced, handed⟩
    · intro fault faulty
      exact follows.emitNamed_of_fault positive faulty name number failure traced

theorem after_last_call_of_file :
    after ⟨[⟨.file "old.log", 0⟩], [.other "StreamHandler"], 0⟩
          [⟨⟨some "debug", none, some "sealed.log"⟩, fun _ => .error "Permission denied"⟩,
            ⟨⟨some "warning", some "TRUE", some "app.log"⟩, fun _ => .ok ()⟩]
        = ⟨[⟨.standardOutput, 30⟩, ⟨.file "app.log", 30⟩], [.intercepting], 30⟩
      ∧ ∃ told, emitLibrary ⟨[⟨.standardOutput, 30⟩, ⟨.file "app.log", 30⟩], [.intercepting], 30⟩
          30 "%s took %d" [.text "token", .int 5] none false = .ok told
        ∧ told.count ⟨⟨.standardOutput, 30⟩, ⟨.warning, "token took 5", none, false⟩⟩ = 1
        ∧ told.count ⟨⟨.file "app.log", 30⟩, ⟨.warning, "token took 5", none, false⟩⟩ = 1 := by
  obtain ⟨settled, level, same, names, _, _, library⟩ :=
    after_last_call ⟨⟨some "warning", some "TRUE", some "app.log"⟩, fun _ => .ok ()⟩
  have set : after ⟨[⟨.file "old.log", 0⟩], [.other "StreamHandler"], 0⟩
      [⟨⟨some "debug", none, some "sealed.log"⟩, fun _ => .error "Permission denied"⟩,
        ⟨⟨some "warning", some "TRUE", some "app.log"⟩, fun _ => .ok ()⟩]
      = ⟨[⟨.standardOutput, 30⟩, ⟨.file "app.log", 30⟩], [.intercepting], 30⟩ := by
    decide
  have asked : level.number = 30 := by
    rw [Environment.names_iff.1 names]
    decide
  have settled_eq := (same _ [_]).symm.trans set
  have made : Template.message "%s took %d" [.text "token", .int 5] = .ok "token took 5" := by decide +kernel
  obtain ⟨told, emitted, handed⟩ := (library (Level.ofLibrary 30).name 30 "%s took %d" [.text "token", .int 5] none false
    (Level.isUsual_ofLibrary 30)).1 _ made
  rw [settled_eq] at emitted handed
  have reaches : level.number ≤ 30 := asked ▸ Int.le_refl _
  exact ⟨set, told, emitted, handed.once reaches _ (by simp), handed.once reaches _ (by simp)⟩

-- A number is asked for where a text is given: the record is lost, though it is above the threshold.
theorem record_lost_for_its_argument :
    after ⟨[], [], 0⟩ [⟨⟨none, none, none⟩, fun _ => .ok ()⟩] = ⟨[⟨.standardError, 20⟩], [.intercepting], 20⟩
      ∧ Level.IsUsual "WARNING" 30
      ∧ emitNamed ⟨[⟨.standardError, 20⟩], [.intercepting], 20⟩ "WARNING" 30 "%d" [.text "x"] none false
        = .error (.template (.notNumber 'd' "a real number" "str")) := by
  refine ⟨?_, ?_, ?_⟩
  · decide
  · exact .inl ⟨.warning, by decide, rfl, rfl⟩
  · decide +kernel

end Setup

end OidcLogin.Logging
