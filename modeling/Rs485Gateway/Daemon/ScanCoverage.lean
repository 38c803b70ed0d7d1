import Rs485Gateway.Daemon.Scan

namespace Rs485Gateway

open Interaction

/-- A run of consecutive rows of a profile, short enough for one request. -/
structure Segment (profile : DeviceMapProfile) (segment : List DeviceRegisterMapping) : Prop where
  nonempty : segment ≠ []
  rows : ∀ row ∈ segment, row ∈ profile.table
  consecutive : segment.IsChain adjacent
  short : segment.length ≤ max 1 profile.readChunk.toNat

namespace DeviceMapProfile

variable {profile : DeviceMapProfile}

theorem segments_flatten (profile : DeviceMapProfile) :
    profile.segments.flatten = profile.table := by
  unfold segments
  cases profile.table with
  | nil => rfl
  | cons row rest => simp [Lists.cut_flatten]

theorem segment_of_mem {segment : List DeviceRegisterMapping}
    (member : segment ∈ profile.segments) : Segment profile segment := by
  have rows : ∀ row ∈ segment, row ∈ profile.table := by
    intro row inside
    rw [← segments_flatten]
    exact List.mem_flatten_of_mem member inside
  unfold segments at member
  cases table : profile.table with
  | nil => simp [table] at member
  | cons row rest =>
      rw [table] at member
      exact ⟨Lists.cut_nonempty member, rows, Lists.cut_chain (by simp) member,
        Lists.cut_length (by simp) member⟩

end DeviceMapProfile

namespace Segment

variable {profile : DeviceMapProfile} {segment : List DeviceRegisterMapping}

theorem address_of_chain {rows : List DeviceRegisterMapping} (chain : rows.IsChain adjacent)
    {i : Nat} (bound : i < rows.length) :
    rows[i].deviceAddress.toNat = (segmentStart rows).toNat + i := by
  induction rows generalizing i with
  | nil => exact absurd bound (Nat.not_lt_zero i)
  | cons row rest ih =>
      cases i with
      | zero => simp [segmentStart]
      | succ i =>
          cases rest with
          | nil => simp at bound
          | cons next rest =>
              rw [List.isChain_cons_cons] at chain
              have later := ih chain.2 (i := i) (by simpa using bound)
              have step : next.deviceAddress.toNat = row.deviceAddress.toNat + 1 := chain.1
              simp only [segmentStart, List.head?_cons, Option.map_some, Option.getD_some] at later
              simp only [List.getElem_cons_succ, later, segmentStart, List.head?_cons,
                Option.map_some, Option.getD_some, step]
              omega

theorem count_toNat (good : Segment profile segment) :
    (UInt16.ofNat segment.length).toNat = segment.length := by
  have bound := profile.readChunk.toNat_lt
  have short := good.short
  rw [UInt16.toNat_ofNat']
  apply Nat.mod_eq_of_lt
  omega

theorem addresses (good : Segment profile segment)
    (answer : Option (Fin (UInt16.ofNat segment.length).toNat → Reg)) :
    (DeviceRead.mk (segmentStart segment) (UInt16.ofNat segment.length) answer).addresses =
      segment.map fun row => row.deviceAddress.toNat := by
  apply List.ext_getElem
  · simp only [DeviceRead.addresses, List.length_map, List.length_range]
    exact good.count_toNat
  · intro i _ bound
    have here : i < segment.length := by simpa using bound
    simp [DeviceRead.addresses, address_of_chain good.consecutive here]

theorem slot (good : Segment profile segment) (sorted : profile.Sorted)
    (inside : ∀ row ∈ profile.table, row.poolAddress.toNat < internalPoolSize) {i : Nat}
    (bound : i < segment.length) :
    storeSlot profile (segmentStart segment + UInt16.ofNat i) = some segment[i].poolAddress := by
  have member := good.rows _ (List.getElem_mem bound)
  have address : segmentStart segment + UInt16.ofNat i = segment[i].deviceAddress := by
    apply UInt16.toNat_inj.mp
    have position := address_of_chain good.consecutive bound
    have limit := segment[i].deviceAddress.toNat_lt
    rw [UInt16.toNat_add, UInt16.toNat_ofNat', position]
    omega
  rw [storeSlot, address, deviceFindSlot_mem sorted member]
  simp [Nat.not_le.mpr (inside _ member)]

theorem stores_eq (good : Segment profile segment) (sorted : profile.Sorted)
    (inside : ∀ row ∈ profile.table, row.poolAddress.toNat < internalPoolSize) {n : Nat}
    (full : n = segment.length) (values : Fin n → Reg) :
    stores profile (segmentStart segment) values (List.finRange n) =
      (List.finRange n).map fun i => (segment[i.val].poolAddress, values i) := by
  subst full
  unfold stores
  rw [List.filterMap_eq_map_iff_forall_eq_some]
  intro i _
  rw [good.slot sorted inside i.isLt]
  rfl

/-- A successful read of a segment fills exactly the slots of its rows. -/
theorem stores_slots (good : Segment profile segment) (sorted : profile.Sorted)
    (inside : ∀ row ∈ profile.table, row.poolAddress.toNat < internalPoolSize)
    (values : Fin (UInt16.ofNat segment.length).toNat → Reg) :
    (stores profile (segmentStart segment) values (List.finRange _)).map Prod.fst =
      segment.map DeviceRegisterMapping.poolAddress := by
  rw [good.stores_eq sorted inside good.count_toNat values]
  apply List.ext_getElem
  · simpa using good.count_toNat
  · intro i _ _
    simp

end Segment

structure Served (before after : Pool) (segment : List DeviceRegisterMapping) (read : DeviceRead) :
    Prop where
  start : read.start = segmentStart segment
  count : read.count = UInt16.ofNat segment.length
  fresh : ∀ values, read.answer = some values → ∀ (i : Fin read.count.toNat) row,
    segment[i.val]? = some row → after row.poolAddress = values i
  stale : read.answer = none → ∀ row ∈ segment, after row.poolAddress = before row.poolAddress

section Coverage

variable {unit : DeviceUnit} {trackCommFail : Bool} {st st' : UnitState}
  {events : List DaemonEvent}

theorem scanSegments_served (sorted : unit.profile.Sorted)
    (inside : ∀ row ∈ unit.profile.table, row.poolAddress.toNat < internalPoolSize)
    {segments : List (List DeviceRegisterMapping)}
    (good : ∀ segment ∈ segments, Segment unit.profile segment)
    (once : (segments.flatten.map DeviceRegisterMapping.poolAddress).Nodup) (before pool : Pool)
    (agree : ∀ row ∈ segments.flatten, pool row.poolAddress = before row.poolAddress)
    (run : DaemonRuns (scanSegments unit trackCommFail segments st) events (.ok, st')) :
    List.Forall₂ (Served before (poolAfter pool events)) segments (deviceReads events) ∧
      ∀ address ∉ segments.flatten.map DeviceRegisterMapping.poolAddress,
        poolAfter pool events address = pool address := by
  induction segments generalizing pool st events with
  | nil =>
      obtain ⟨rfl, _⟩ := Runs.ret_inv run
      exact ⟨.nil, fun _ _ => rfl⟩
  | cons segment segments ih =>
      have here := good segment List.mem_cons_self
      have others := fun next member => good next (List.mem_cons_of_mem _ member)
      rw [List.flatten_cons, List.map_append, List.nodup_append] at once
      obtain ⟨onceHere, onceLater, apart⟩ := once
      have agreeHere : ∀ row ∈ segment, pool row.poolAddress = before row.poolAddress :=
        fun row member => agree row (List.mem_append_left _ member)
      have agreeLater : ∀ row ∈ segments.flatten, pool row.poolAddress = before row.poolAddress :=
        fun row member => agree row (List.mem_append_right _ member)
      generalize result_eq : (Rc.ok, st') = result at run
      cases scanStep_runs run with
      | @stored head tail result values read wrote rest =>
          subst result_eq
          have slots := here.stores_slots sorted inside values
          have untouched : ∀ address ∉ segment.map DeviceRegisterMapping.poolAddress,
              poolAfter pool head address = pool address := by
            intro address absent
            rw [wrote]
            exact Lists.writeAll_other (by rwa [slots])
          obtain ⟨served, frame⟩ := ih others onceLater (poolAfter pool head) (by
            intro row member
            rw [untouched _ fun clash =>
              apart _ clash _ (List.mem_map_of_mem member) rfl]
            exact agreeLater row member) rest
          rw [deviceReads_append, read, poolAfter_append]
          refine ⟨.cons ⟨rfl, rfl, ?_, by simp⟩ served, ?_⟩
          · rintro _ ⟨⟩ i row row_at
            have bound : i.val < segment.length := lt_of_lt_of_eq i.isLt here.count_toNat
            have member : row ∈ segment := List.mem_of_getElem? row_at
            rw [frame _ fun clash => apart _ (List.mem_map_of_mem member) _ clash rfl, wrote]
            apply Lists.writeAll_unique (by rwa [slots])
            rw [here.stores_eq sorted inside here.count_toNat values, List.mem_map]
            refine ⟨i, List.mem_finRange i, ?_⟩
            rw [List.getElem?_eq_getElem bound, Option.some.injEq] at row_at
            rw [row_at]
          · intro address absent
            rw [List.flatten_cons, List.map_append, List.mem_append, not_or] at absent
            rw [frame _ absent.2, untouched _ absent.1]
      | @skipped head tail result tracked read wrote few rest =>
          subst result_eq
          obtain ⟨served, frame⟩ := ih others onceLater (poolAfter pool head)
            (by simpa [wrote] using agreeLater) rest
          rw [wrote] at frame
          rw [deviceReads_append, read, poolAfter_append, wrote]
          rw [wrote] at served
          refine ⟨.cons ⟨rfl, rfl, by simp, ?_⟩ served, ?_⟩
          · intro _ row member
            rw [frame _ fun clash => apart _ (List.mem_map_of_mem member) _ clash rfl]
            exact agreeHere row member
          · intro address absent
            rw [List.flatten_cons, List.map_append, List.mem_append, not_or] at absent
            exact frame _ absent.2
      | untracked => cases result_eq
      | lost => cases result_eq

theorem served_addresses {before after : Pool} {segments : List (List DeviceRegisterMapping)}
    {reads : List DeviceRead} (served : List.Forall₂ (Served before after) segments reads)
    (good : ∀ segment ∈ segments, Segment unit.profile segment) :
    reads.flatMap DeviceRead.addresses =
      segments.flatten.map fun row => row.deviceAddress.toNat := by
  induction served with
  | nil => rfl
  | @cons segment read segments reads first others ih =>
      have here := good segment List.mem_cons_self
      obtain ⟨start, count, answer⟩ := read
      obtain rfl := first.start
      obtain rfl := first.count
      rw [List.flatMap_cons, here.addresses, ih fun next member =>
        good next (List.mem_cons_of_mem _ member), List.flatten_cons, List.map_append]

theorem served_of_mem {before after : Pool} {segments : List (List DeviceRegisterMapping)}
    {reads : List DeviceRead} {read : DeviceRead}
    (served : List.Forall₂ (Served before after) segments reads) (member : read ∈ reads) :
    ∃ segment ∈ segments, Served before after segment read := by
  induction served with
  | nil => cases member
  | cons first others ih =>
      rcases List.mem_cons.mp member with rfl | later
      · exact ⟨_, List.mem_cons_self, first⟩
      · obtain ⟨segment, present, serving⟩ := ih later
        exact ⟨segment, List.mem_cons_of_mem _ present, serving⟩

theorem Segment.getElem_of_address {profile : DeviceMapProfile}
    {segment : List DeviceRegisterMapping} {row : DeviceRegisterMapping} (sorted : profile.Sorted)
    (good : Segment profile segment) (member : row ∈ profile.table) {i : Nat}
    (bound : i < segment.length)
    (address : row.deviceAddress.toNat = (segmentStart segment).toNat + i) :
    segment[i]? = some row := by
  have here := List.getElem_mem bound
  have same : segment[i].deviceAddress = row.deviceAddress := by
    apply UInt16.toNat_inj.mp
    rw [Segment.address_of_chain good.consecutive bound, address]
  have found := deviceFindSlot_mem sorted (good.rows _ here)
  rw [same, deviceFindSlot_mem sorted member] at found
  rw [List.getElem?_eq_getElem bound, Option.some.inj found]

/-- One whole scan: every row is requested once, in order, and each slot ends with
the value of its own row or as it was. -/
theorem readProfileToPool_covers (sorted : unit.profile.Sorted)
    (once : (unit.profile.table.map DeviceRegisterMapping.poolAddress).Nodup)
    (inside : ∀ row ∈ unit.profile.table, row.poolAddress.toNat < internalPoolSize) (pool : Pool)
    (run : DaemonRuns (readProfileToPool unit trackCommFail st) events (.ok, st')) :
    (deviceReads events).flatMap DeviceRead.addresses =
        unit.profile.table.map (fun row => row.deviceAddress.toNat) ∧
      (∀ read ∈ deviceReads events, 1 ≤ read.count.toNat ∧
        read.count.toNat ≤ max 1 unit.profile.readChunk.toNat) ∧
      (∀ read ∈ deviceReads events, ∀ row ∈ unit.profile.table, ∀ i : Fin read.count.toNat,
        row.deviceAddress.toNat = read.start.toNat + i →
          (∀ values, read.answer = some values →
            poolAfter pool events row.poolAddress = values i) ∧
          (read.answer = none →
            poolAfter pool events row.poolAddress = pool row.poolAddress)) ∧
      ∀ address ∉ unit.profile.table.map DeviceRegisterMapping.poolAddress,
        poolAfter pool events address = pool address := by
  by_cases empty : unit.profile.tableCount = 0
  · have noRows : unit.profile.table = [] := List.length_eq_zero_iff.mp empty
    rw [readProfileToPool, if_pos empty] at run
    obtain ⟨rfl, _⟩ := Runs.ret_inv run
    simp [noRows]
  · obtain ⟨inner, rfl, scanned⟩ := readProfileToPool_segments empty run
    have flat := DeviceMapProfile.segments_flatten unit.profile
    obtain ⟨served, frame⟩ := scanSegments_served sorted inside
      (fun _ => DeviceMapProfile.segment_of_mem) (by rwa [flat]) pool pool (fun _ _ => rfl) scanned
    rw [deviceReads_scanEvents, poolAfter_scanEvents]
    have each : ∀ read ∈ deviceReads inner, ∃ segment, Segment unit.profile segment ∧
        Served pool (poolAfter pool inner) segment read := by
      intro read member
      obtain ⟨segment, present, serving⟩ := served_of_mem served member
      exact ⟨segment, DeviceMapProfile.segment_of_mem present, serving⟩
    refine ⟨?_, ?_, ?_, ?_⟩
    · rw [served_addresses served fun _ => DeviceMapProfile.segment_of_mem, flat]
    · intro read member
      obtain ⟨segment, good, serving⟩ := each read member
      rw [serving.count, good.count_toNat]
      exact ⟨List.length_pos_iff.mpr good.nonempty, good.short⟩
    · intro read member row present i address
      obtain ⟨segment, good, serving⟩ := each read member
      have length : read.count.toNat = segment.length := by rw [serving.count, good.count_toNat]
      have bound : i.val < segment.length := lt_of_lt_of_eq i.isLt length
      have position := good.getElem_of_address sorted present bound (serving.start ▸ address)
      exact ⟨fun values answered => serving.fresh values answered i row position,
        fun unanswered => serving.stale unanswered row (List.mem_of_getElem? position)⟩
    · rwa [flat] at frame

def gappedUnit : DeviceUnit where
  cfg := ⟨1, .tcp⟩
  profile :=
    { table := [⟨10, 100, .ro⟩, ⟨11, 101, .ro⟩, ⟨12, 102, .ro⟩, ⟨20, 103, .ro⟩], readChunk := 2 }

theorem readProfileToPool_covers_gapped : ∃ events st, ∃ pool : Pool,
    DaemonRuns (readProfileToPool gappedUnit true ⟨0, 1⟩) events (.ok, st) ∧
      (deviceReads events).flatMap DeviceRead.addresses = [10, 11, 12, 20] ∧
      pool 105 = poolAfter pool events 105 := by
  obtain ⟨events, ⟨rc, st⟩, run, ended⟩ := runs_of_check daemonCode
    (steadyDevice (fun start => start ≠ 12) (fun address => address + 1)) 0
    (readProfileToPool gappedUnit true ⟨0, 1⟩) (fun result => result.2.1 = .ok) (by decide)
  obtain rfl : rc = .ok := by simpa using ended
  have sorted : gappedUnit.profile.Sorted := by
    unfold DeviceMapProfile.Sorted
    decide
  have covers := readProfileToPool_covers sorted (by decide) (by decide) (fun _ => 7) run
  exact ⟨events, st, fun _ => 7, run, covers.1, (covers.2.2.2 105 (by decide)).symm⟩

end Coverage

end Rs485Gateway
