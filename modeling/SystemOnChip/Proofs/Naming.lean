import SystemOnChip.Proofs.Call.Refusal
import SystemOnChip.Proofs.Csr
import SystemOnChip.Proofs.Soc.Atomicity
import SystemOnChip.Proofs.Soc.Faults

/-! The names of the interfaces on the buses of a system. An interface without a name is
numbered by the length of its table. Such a name is taken only where an earlier interface
came with it as a name of its own. -/
namespace SystemOnChip

namespace Names

/-- The name of an entry that comes without one, by its index. -/
def numbered (label : String) (index : Nat) : String := s!"{label}{index}"

theorem numbered_inj {label : String} {first second : Nat}
    (same : numbered label first = numbered label second) : first = second := by
  have digits : toString first = toString second := (String.append_right_inj label).mp same
  rw [Nat.toString_eq_ofList_toDigits, Nat.toString_eq_ofList_toDigits, String.ofList_inj]
    at digits
  simpa using congrArg (Nat.ofDigitChars 10 · 0) digits

end Names

namespace Bus
variable {bus : Bus} {name : String} {given : Region} {interface : Interface}

theorem result_attachMaster {wanted : Option String} :
    (attachMaster wanted interface bus).result = (bus.chooseMaster wanted).result := by
  rw [attachMaster, Call.result_bind_of_answers, Call.result_ask, Verdict.result_orDump]
  intro answer middle
  obtain ⟨attachment, adapted⟩ := @adapt_succeeds answer interface middle
  exact (Call.bind_ok _ adapted).1

theorem declareRegion_keeps {masters slaves : List (String × Attachment)} :
    (declareRegion name given).Keeps fun bus => bus.masters = masters ∧ bus.slaves = slaves := by
  intro bus attached
  cases ended : (declareRegion name given bus).result with
  | error fault => rwa [declareRegion_atomic bus fault ended]
  | ok stored =>
    rw [(declareRegion_runs.done stored ended).2, store_masters, store_slaves]
    exact attached

theorem unattached_of_ofConfig {config : Config} (accepted : (ofConfig config).result = .ok bus) :
    bus.masters = [] ∧ bus.slaves = [] := by
  simp only [ofConfig, Verdict.bind_ok_iff, Verdict.require_ok_iff, Verdict.result_info,
    Call.completed_ok_iff, Verdict.result_pure, Except.ok.injEq] at accepted
  obtain ⟨-, -, -, -, -, -, -, -, created, ⟨-, reserved⟩, -, -, rfl⟩ := accepted
  rw [← reserved]
  have keeps : (reserve config.reservedRegions.entries).Keeps fun bus =>
      bus.masters = [] ∧ bus.slaves = [] := .forM fun _ => .map declareRegion_keeps
  exact keeps _ ⟨rfl, rfl⟩

theorem Prepared.masters {middle : Bus} {window : Option Region}
    (prepared : bus.Prepared name window middle) : middle.masters = bus.masters := by
  cases window with
  | none => rw [prepared]
  | some region =>
    obtain ⟨stored, -, rfl⟩ := prepared
    exact store_masters

theorem taken_of_chooseMaster {wanted : Option String}
    (failed : (bus.chooseMaster wanted).result = .error (.duplicateMasterName name)) :
    name = wanted.getD (Names.numbered "master" bus.masters.length) ∧
      name ∈ bus.masters.map (·.1) := by
  simp only [chooseMaster, Verdict.bind_error_iff, Verdict.require_error_iff, Verdict.result_pure,
    Fault.duplicateMasterName.injEq, reduceCtorEq, and_false, exists_false, or_false] at failed
  obtain ⟨known, rfl⟩ := failed
  exact ⟨rfl, Names.lookup_isSome_iff.mp (Option.isNone_eq_false_iff.mp known)⟩

theorem taken_of_attachSlave {wanted : Option String} {window : Option Region}
    (failed : (attachSlave wanted interface window bus).result =
      .error (.duplicateSlaveName name)) :
    name = wanted.getD (Names.numbered "slave" bus.slaves.length) ∧
      name ∈ bus.slaves.map (·.1) := by
  rcases attachSlave_error_iff.mp failed with failed | ⟨_, -, _, -, failed⟩
  · cases window
    -- with a region or without one, the name is looked up first
    all_goals
      simp only [chooseSlave, Verdict.bind_error_iff, Verdict.require_error_iff,
        Verdict.require_ok_iff, Verdict.result_pure, Fault.duplicateSlaveName.injEq, reduceCtorEq,
        and_false, exists_false, or_false, false_or] at failed
      obtain ⟨-, -, known, rfl⟩ := failed
      exact ⟨rfl, Names.lookup_isSome_iff.mp (Option.isNone_eq_false_iff.mp known)⟩
  · have about := settle_failsOver _ failed
    contradiction

end Bus

theorem Csr.taken_of_chooseMaster {csr : Csr} {wanted : Option String} {name : String}
    {interface : Interface}
    (failed : (csr.chooseMaster wanted interface).result = .error (.duplicateMasterName name)) :
    name = wanted.getD (Names.numbered "master" csr.masters.length) ∧
      name ∈ csr.masters.map (·.1) := by
  simp only [chooseMaster, Verdict.bind_error_iff, Verdict.require_error_iff, Verdict.result_pure,
    Fault.duplicateMasterName.injEq, reduceCtorEq, and_false, exists_false, or_false] at failed
  obtain ⟨known, rfl⟩ := failed
  exact ⟨rfl, Names.lookup_isSome_iff.mp (Option.isNone_eq_false_iff.mp known)⟩

/-- The two buses of a system, to which interfaces are attached by name. -/
structure Buses where
  bus : Bus
  csr : Csr

namespace Buses

inductive Table where
  | masters
  | slaves
  | csrMasters
deriving DecidableEq

namespace Table

/-- What the names of interfaces without one start with. -/
def label : Table → String
  | masters | csrMasters => "master"
  | slaves => "slave"

def names (buses : Buses) : Table → List String
  | masters => buses.bus.masters.map (·.1)
  | slaves => buses.bus.slaves.map (·.1)
  | csrMasters => buses.csr.masters.map (·.1)

def size (buses : Buses) : Table → Nat
  | masters => buses.bus.masters.length
  | slaves => buses.bus.slaves.length
  | csrMasters => buses.csr.masters.length

/-- The name of an interface that is attached next. -/
def choice (table : Table) (buses : Buses) (wanted : Option String) : String :=
  wanted.getD (Names.numbered table.label (table.size buses))

/-- The fault of an interface whose name another one of the table has. -/
def taken : Table → String → Fault
  | masters | csrMasters => .duplicateMasterName
  | slaves => .duplicateSlaveName

theorem length_names (table : Table) (buses : Buses) :
    (table.names buses).length = table.size buses := by
  cases table <;> exact List.length_map _

end Table

/-- A declaration on either bus. -/
inductive Request where
  | bus (declaration : Bus.Declaration)
  | csr (declaration : Csr.Declaration)

namespace Request

/-- The table that the request attaches an interface in, if any, and the name that the
interface comes with, if any. -/
def target : Request → Option (Table × Option String)
  | bus (.master name _) => some (.masters, name)
  | bus (.slave name _ _) => some (.slaves, name)
  | csr (.master name _) => some (.csrMasters, name)
  | bus (.region ..) | csr (.location ..) => none

/-- An interface that is attached is answered its name. -/
def perform : Request → Call Buses (Option String)
  | bus declaration => Sum.getRight? <$>
      declaration.perform.on Buses.bus fun bus buses => { buses with bus }
  | csr declaration => Sum.getRight? <$>
      declaration.perform.on Buses.csr fun csr buses => { buses with csr }

end Request

/-- How a request ends. An interface is attached behind all others of its table, under a name
that none of them has, or it is refused and the buses stay as they are. -/
inductive Step (buses : Buses) (request : Request) : Except Fault (Option String) → Buses → Prop
  where
  | unattached {result after} (target : request.target = none)
      (same : ∀ table : Table, table.names after = table.names buses) :
      Step buses request result after
  | attached {table wanted after} (target : request.target = some (table, wanted))
      (fresh : table.choice buses wanted ∉ table.names buses)
      (appended : ∀ other : Table, other.names after = if other = table
        then table.names buses ++ [table.choice buses wanted] else other.names buses) :
      Step buses request (.ok (some (table.choice buses wanted))) after
  | refused {table wanted fault} (target : request.target = some (table, wanted))
      (taken : ∀ name, fault = table.taken name →
        name = table.choice buses wanted ∧ name ∈ table.names buses) :
      Step buses request (.error fault) buses

namespace Request
variable {buses : Buses} {wanted : Option String}

section Answers
variable {σ α : Type} {call : Call σ String} {part : Buses → σ} {put : σ → Buses → Buses}

theorem result_inr : ((Sum.getRight? <$> (Sum.inr (α := α) <$> call).on part put) buses).result =
    (call (part buses)).result.map some := by
  rw [Call.result_map, Call.on, Call.result_map]
  cases (call (part buses)).result <;> rfl

theorem state_inr : ((Sum.getRight? <$> (Sum.inr (α := α) <$> call).on part put) buses).state =
    put (call (part buses)).state buses := by
  rw [Call.state_map, Call.on, Call.state_map]

theorem step_of_call {request : Request} {table : Table} (atomic : call.Atomic)
    (same : ∀ buses, put (part buses) buses = buses)
    (target : request.target = some (table, wanted))
    (done : ∀ name, (call (part buses)).result = .ok name →
      name = table.choice buses wanted ∧ name ∉ table.names buses ∧
        ∀ other : Table, other.names (put (call (part buses)).state buses) =
          if other = table then table.names buses ++ [name] else other.names buses)
    (taken : ∀ name, (call (part buses)).result = .error (table.taken name) →
      name = table.choice buses wanted ∧ name ∈ table.names buses) :
    Step buses request
      ((Sum.getRight? <$> (Sum.inr (α := α) <$> call).on part put) buses).result
      ((Sum.getRight? <$> (Sum.inr (α := α) <$> call).on part put) buses).state := by
  rw [result_inr, state_inr]
  cases ended : (call (part buses)).result with
  | ok name =>
    obtain ⟨rfl, fresh, appended⟩ := done name ended
    exact .attached target fresh appended
  | error fault =>
    rw [atomic _ fault ended, same]
    exact .refused target fun name about => taken name (about ▸ ended)

end Answers

theorem region_step {name : String} {given : Region} :
    ∀ table : Table, table.names ((bus (.region name given)).perform buses).state =
      table.names buses := by
  have kept := @Bus.declareRegion_keeps name given _ _ buses.bus ⟨rfl, rfl⟩
  intro table
  rw [perform, Call.state_map, Call.on, Bus.Declaration.perform, Call.state_map]
  cases table with
  | masters => exact congrArg (List.map (·.1)) kept.1
  | slaves => exact congrArg (List.map (·.1)) kept.2
  | csrMasters => rfl

theorem master_step {interface : Bus.Interface} :
    Step buses (bus (.master wanted interface))
      ((bus (.master wanted interface)).perform buses).result
      ((bus (.master wanted interface)).perform buses).state := by
  refine step_of_call Bus.attachMaster_atomic (fun _ => rfl) rfl (fun name attached => ?_)
    fun name failed => ?_
  · obtain ⟨chosen, attachment, -, after⟩ := Bus.attachMaster_runs.done name attached
    obtain ⟨rfl, fresh⟩ := Bus.chooseMaster_ok_iff.mp chosen
    refine ⟨rfl, Names.lookup_isNone_iff.mp fresh, fun other => ?_⟩
    rw [after]
    cases other with
    | masters => exact List.map_append
    | slaves => rfl
    | csrMasters => rfl
  · rw [Bus.result_attachMaster] at failed
    exact Bus.taken_of_chooseMaster failed

theorem slave_step {interface : Bus.Interface} {window : Option Region} :
    Step buses (bus (.slave wanted interface window))
      ((bus (.slave wanted interface window)).perform buses).result
      ((bus (.slave wanted interface window)).perform buses).state := by
  refine step_of_call Bus.attachSlave_atomic (fun _ => rfl) rfl (fun name attached => ?_)
    fun name failed => Bus.taken_of_attachSlave failed
  obtain ⟨chosen, middle, attachment, prepared, -, after⟩ :=
    Bus.attachSlave_runs.done name attached
  obtain ⟨-, rfl, fresh, -⟩ := Bus.chooseSlave_ok_iff.mp chosen
  refine ⟨rfl, Names.lookup_isNone_iff.mp fresh, fun other => ?_⟩
  rw [after]
  cases other with
  | masters => exact congrArg (List.map (·.1)) prepared.masters
  | slaves => exact List.map_append
  | csrMasters => rfl

theorem csrMaster_step {interface : Csr.Interface} :
    Step buses (csr (.master wanted interface))
      ((csr (.master wanted interface)).perform buses).result
      ((csr (.master wanted interface)).perform buses).state := by
  refine step_of_call Csr.attachMaster_atomic (fun _ => rfl) rfl (fun name attached => ?_)
    fun name failed => ?_
  · obtain ⟨chosen, after⟩ :=
      (Csr.attachMaster_runs (fun _ _ => True) fun _ _ => trivial).done name attached
    obtain ⟨rfl, fresh, -⟩ := Csr.chooseMaster_ok_iff.mp chosen
    refine ⟨rfl, Names.lookup_isNone_iff.mp fresh, fun other => ?_⟩
    rw [after]
    cases other with
    | masters => rfl
    | slaves => rfl
    | csrMasters => exact List.map_append
  · rw [Csr.result_attachMaster] at failed
    exact Csr.taken_of_chooseMaster failed

theorem perform_step (request : Request) (buses : Buses) :
    Step buses request (request.perform buses).result (request.perform buses).state := by
  cases request with
  | bus declaration =>
    cases declaration with
    | region name given => exact .unattached rfl region_step
    | master => exact master_step
    | slave => exact slave_step
  | csr declaration =>
    cases declaration with
    | location name wanted reuse =>
      refine .unattached rfl fun table => ?_
      rw [perform, Call.state_map, Call.on, Csr.Declaration.perform, Call.state_map]
      cases table <;> rfl
    | master => exact csrMaster_step

end Request

namespace Table
variable {table : Table} {buses after : Buses} {request : Request} {history : List Request}
  {result : Except Fault (Option String)}

/-- The name under which a call has attached an interface in the table. -/
def answer? (table : Table) (request : Request) (result : Except Fault (Option String)) :
    Option String :=
  match request.target, result with
  | some (other, _), .ok name => if other = table then name else none
  | _, _ => none

/-- No request comes with a name of its own that a number makes as well. -/
def SparesNumbers (table : Table) (history : List Request) : Prop :=
  ∀ request ∈ history, ∀ index,
    request.target ≠ some (table, some (Names.numbered table.label index))

/-- Where names in a table come from: they are distinct, and one that is not made of its own
index has come with a request. -/
structure Accounts (table : Table) (history : List Request) (buses : Buses) : Prop where
  distinct : (table.names buses).Nodup
  origin : ∀ (index : Nat) (name : String), (table.names buses)[index]? = some name →
    name = Names.numbered table.label index ∨
      ∃ request ∈ history, request.target = some (table, some name)

theorem names_of_step (table : Table) (step : Step buses request result after) :
    table.names after = table.names buses ++ (table.answer? request result).toList := by
  cases step with
  | unattached target same => simp [answer?, target, same]
  | @attached other wanted _ target fresh appended =>
    rw [appended table]
    by_cases same : table = other
    · subst same
      simp [answer?, target]
    · simp [answer?, target, same, Ne.symm same]
  | refused target taken => simp [answer?, target]

theorem answer_of_step {name : String} (step : Step buses request result after)
    (answered : table.answer? request result = some name) : ∃ wanted,
      request.target = some (table, wanted) ∧ name = table.choice buses wanted ∧
        name ∉ table.names buses := by
  cases step with
  | unattached target same => simp [answer?, target] at answered
  | @attached other wanted _ target fresh appended =>
    simp only [answer?, target, Option.ite_none_right_eq_some, Option.some.injEq] at answered
    obtain ⟨rfl, rfl⟩ := answered
    exact ⟨wanted, target, rfl, fresh⟩
  | refused target taken => simp [answer?, target] at answered

theorem names_leaves : table.names (Call.leaves Request.perform buses history) =
    table.names buses ++ (Call.transcript Request.perform buses history).filterMap
      fun entry => table.answer? entry.1 entry.2.result := by
  -- on the requests, as those behind the first one find the tables that it leaves
  induction history generalizing buses with
  | nil => exact (List.append_nil _).symm
  | cons first rest ih =>
    have moved := names_of_step table (first.perform_step buses)
    change table.names (Call.leaves Request.perform (first.perform buses).state rest) = _
    rw [ih, moved, Call.transcript, List.append_assoc, List.filterMap_cons]
    cases table.answer? first (first.perform buses).result <;> rfl

namespace Accounts

theorem of_unattached (empty : table.names buses = []) : table.Accounts history buses where
  distinct := by
    rw [empty]
    exact .nil
  origin index name found := by
    rw [empty] at found
    contradiction

theorem step (accounts : table.Accounts history buses)
    (step : Step buses request result after) : table.Accounts (history ++ [request]) after := by
  have moved := names_of_step table step
  have grown {name : String}
      (known : ∃ earlier ∈ history, earlier.target = some (table, some name)) :
      ∃ earlier ∈ history ++ [request], earlier.target = some (table, some name) := by
    obtain ⟨earlier, member, target⟩ := known
    exact ⟨earlier, List.mem_append_left _ member, target⟩
  cases answered : table.answer? request result with
  | none =>
    rw [answered, Option.toList_none, List.append_nil] at moved
    refine ⟨moved ▸ accounts.distinct, fun index name found => ?_⟩
    rw [moved] at found
    exact (accounts.origin index name found).imp_right grown
  | some name =>
    obtain ⟨wanted, target, chosen, fresh⟩ := answer_of_step step answered
    rw [answered, Option.toList_some] at moved
    refine ⟨moved ▸ Names.nodup_concat accounts.distinct fresh, fun index other found => ?_⟩
    rw [moved, List.getElem?_append] at found
    split at found
    next => exact (accounts.origin index other found).imp_right grown
    next beyond =>
      -- the new name stands behind all others, so that its index is their number
      rw [List.getElem?_singleton, Option.ite_none_right_eq_some] at found
      obtain ⟨last, same⟩ := found
      cases same
      have index_eq : index = table.size buses := by
        rw [← length_names]
        omega
      cases wanted with
      | none =>
        rw [index_eq]
        exact .inl chosen
      | some given =>
        subst chosen
        exact .inr ⟨request, List.mem_append_right _ List.mem_cons_self, target⟩

theorem taken (accounts : table.Accounts history buses)
    (known : table.choice buses none ∈ table.names buses) :
    ∃ request ∈ history, request.target = some (table, some (table.choice buses none)) := by
  obtain ⟨index, found⟩ := List.mem_iff_getElem?.mp known
  refine (accounts.origin index _ found).resolve_left fun numbered => ?_
  have below := (List.getElem?_eq_some_iff.mp found).1
  rw [length_names, Names.numbered_inj numbered] at below
  exact Nat.lt_irrefl _ below

theorem unused (accounts : table.Accounts history buses) (spares : table.SparesNumbers history) :
    table.choice buses none ∉ table.names buses := by
  intro known
  obtain ⟨request, member, target⟩ := accounts.taken known
  exact spares request member _ target

/-- On new buses every request is accounted for. -/
theorem leaves (table : Table) {busConfig : Bus.Config} {csrConfig : Csr.Config} {bus : Bus}
    {csr : Csr} (busAccepted : (Bus.ofConfig busConfig).result = .ok bus)
    (csrAccepted : (Csr.ofConfig csrConfig).result = .ok csr) (history : List Request) :
    table.Accounts history (Call.leaves Request.perform ⟨bus, csr⟩ history) := by
  refine Call.holds_leaves table.Accounts (of_unattached ?_)
    (fun _ request buses accounts => accounts.step (request.perform_step buses)) history
  cases table with
  | masters => exact congrArg (List.map (·.1)) (Bus.unattached_of_ofConfig busAccepted).1
  | slaves => exact congrArg (List.map (·.1)) (Bus.unattached_of_ofConfig busAccepted).2
  | csrMasters => exact congrArg (List.map (·.1)) (Csr.ofConfig_sound csrAccepted).2

end Accounts

/-- An interface without a name is refused for a name only if that is already there. -/
theorem taken_of_step {name : String} (step : Step buses request result after)
    (target : request.target = some (table, none)) (failed : result = .error (table.taken name)) :
    name = table.choice buses none ∧ name ∈ table.names buses := by
  cases step with
  | unattached other =>
    rw [target] at other
    contradiction
  | attached => contradiction
  | refused other taken =>
    rw [target] at other
    cases other
    exact taken name (Except.error.inj failed)

end Table

namespace Request
variable {buses : Buses}

theorem master_ok {interface : Bus.Interface}
    (fresh : Table.masters.choice buses none ∉ Table.masters.names buses) :
    ((bus (.master none interface)).perform buses).result =
      .ok (some (Table.masters.choice buses none)) := by
  rw [perform, Bus.Declaration.perform, result_inr, Bus.result_attachMaster,
    Bus.chooseMaster_ok_iff.mpr ⟨rfl, Names.lookup_isNone_iff.mpr fresh⟩]
  rfl

theorem csrMaster_ok {interface : Csr.Interface} (width : interface.dataWidth = buses.csr.dataWidth)
    (fresh : Table.csrMasters.choice buses none ∉ Table.csrMasters.names buses) :
    ((csr (.master none interface)).perform buses).result =
      .ok (some (Table.csrMasters.choice buses none)) := by
  rw [perform, Csr.Declaration.perform, result_inr, Csr.result_attachMaster,
    Csr.chooseMaster_ok_iff.mpr ⟨rfl, Names.lookup_isNone_iff.mpr fresh, width⟩]
  rfl

end Request

/-- After any requests on new buses, refused ones included: an interface without a name is
refused for the name that its table's length makes, and only if an earlier request came with
that name. So masters without a name are attached where no request comes with such a name, on
the register bus those of its width. All names answered for one table are distinct. -/
theorem numbered_names_never_collide {busConfig : Bus.Config} {csrConfig : Csr.Config} {bus : Bus}
    {csr : Csr} (busAccepted : (Bus.ofConfig busConfig).result = .ok bus)
    (csrAccepted : (Csr.ofConfig csrConfig).result = .ok csr) (history : List Request) :
    let buses := Call.leaves Request.perform ⟨bus, csr⟩ history
    (∀ (table : Table) (next : Request) (name : String), next.target = some (table, none) →
      (next.perform buses).result = .error (table.taken name) →
        name = Names.numbered table.label (table.size buses) ∧
          ∃ earlier ∈ history, earlier.target = some (table, some name)) ∧
    (Table.masters.SparesNumbers history → ∀ interface,
      ((Request.bus (.master none interface)).perform buses).result =
        .ok (some (Names.numbered "master" buses.bus.masters.length))) ∧
    (Table.csrMasters.SparesNumbers history → ∀ interface,
      interface.dataWidth = buses.csr.dataWidth →
        ((Request.csr (.master none interface)).perform buses).result =
          .ok (some (Names.numbered "master" buses.csr.masters.length))) ∧
    ∀ table : Table, ((Call.transcript Request.perform ⟨bus, csr⟩ history).filterMap
      fun entry => table.answer? entry.1 entry.2.result).Nodup := by
  have accounts (table : Table) := Table.Accounts.leaves table busAccepted csrAccepted history
  refine ⟨fun table next name target failed => ?_, fun spares interface => ?_,
    fun spares interface width => ?_, fun table => ?_⟩
  · obtain ⟨rfl, known⟩ := Table.taken_of_step (next.perform_step _) target failed
    exact ⟨rfl, (accounts table).taken known⟩
  · exact Request.master_ok ((accounts .masters).unused spares)
  · exact Request.csrMaster_ok width ((accounts .csrMasters).unused spares)
  · have distinct := (accounts table).distinct
    rw [Table.names_leaves] at distinct
    exact (List.nodup_append.mp distinct).2.1

/-- A master that comes as `master1` takes the name of the second one, on its own bus only. -/
theorem second_name_taken_by_first : ∃ bus csr, (Bus.ofConfig {}).result = .ok bus ∧
    (Csr.ofConfig {}).result = .ok csr ∧
    let history : List Request :=
      [.bus (.master (some "master1") ⟨64⟩), .csr (.master none ⟨32⟩), .csr (.master none ⟨8⟩)]
    let buses := Call.leaves Request.perform ⟨bus, csr⟩ history
    ((Request.bus (.master none ⟨32⟩)).perform buses).result =
        .error (.duplicateMasterName "master1") ∧
      (∃ earlier ∈ history, earlier.target = some (.masters, some "master1")) ∧
      ((Request.csr (.master none ⟨32⟩)).perform buses).result = .ok (some "master1") := by
  have created : ∃ bus csr, (Bus.ofConfig {}).result = .ok bus ∧
      (Csr.ofConfig {}).result = .ok csr := ⟨_, _, rfl, rfl⟩
  obtain ⟨bus, csr, busAccepted, csrAccepted⟩ := created
  refine ⟨bus, csr, busAccepted, csrAccepted, ?_⟩
  intro history buses
  obtain ⟨taken, -, spared, -⟩ := numbered_names_never_collide busAccepted csrAccepted history
  have spares : Table.csrMasters.SparesNumbers history := by
    simp [Table.SparesNumbers, history, Request.target]
  have evaluated : ((Request.bus (.master none ⟨32⟩)).perform buses).result =
      .error (.duplicateMasterName "master1") ∧
      buses.csr.dataWidth = 32 ∧ buses.csr.masters.length = 1 := by
    cases busAccepted
    cases csrAccepted
    decide +kernel
  obtain ⟨refused, width, one⟩ := evaluated
  refine ⟨refused, (taken .masters _ "master1" rfl refused).2, ?_⟩
  have attached := spared spares ⟨32⟩ width.symm
  rw [one] at attached
  exact attached

end Buses
end SystemOnChip
