import Rs485Gateway.Device.RegisterMap

/-! The startup check of pool addresses (`device_register_map_register_profile`). -/

namespace Rs485Gateway

def deviceRegisterMapMaxProfiles : Nat := 32

def DeviceMapProfile.poolAddresses (profile : DeviceMapProfile) : List Reg :=
  profile.table.map DeviceRegisterMapping.poolAddress

def collisionFound (registered : List DeviceMapProfile) (profile : DeviceMapProfile) : Bool :=
  profile.table.any fun row =>
    registered.any fun other =>
      other.table.any fun earlier => earlier.poolAddress == row.poolAddress

/-- The tracked profiles after a call, and whether it was accepted; a null table
is `none`. -/
def registerProfile (registered : List DeviceMapProfile) :
    Option DeviceMapProfile → List DeviceMapProfile × Bool
  | none => (registered, false)
  | some profile =>
      if collisionFound registered profile then (registered, false)
      else if registered.length ≥ deviceRegisterMapMaxProfiles then (registered, false)
      else (registered ++ [profile], true)

def registeredProfiles (calls : List (Option DeviceMapProfile)) : List DeviceMapProfile :=
  calls.foldl (fun registered call => (registerProfile registered call).1) []

def namedAddresses (registered : List DeviceMapProfile) : List Reg :=
  registered.flatMap DeviceMapProfile.poolAddresses

def SeparateProfiles (registered : List DeviceMapProfile) : Prop :=
  registered.Pairwise fun first second => first.poolAddresses.Disjoint second.poolAddresses

section Register

variable {registered : List DeviceMapProfile} {call : Option DeviceMapProfile}
  {profile : DeviceMapProfile}

theorem collisionFound_eq_false :
    collisionFound registered profile = false ↔
      ∀ other ∈ registered, other.poolAddresses.Disjoint profile.poolAddresses := by
  simp only [collisionFound, List.any_eq_false, beq_iff_eq, Bool.not_eq_true,
    List.disjoint_left, DeviceMapProfile.poolAddresses, List.mem_map]
  constructor
  · rintro apart other tracked _ ⟨earlier, old, rfl⟩ ⟨row, new, same⟩
    exact apart row new other tracked earlier old same.symm
  · intro apart row new other tracked earlier old same
    exact apart other tracked ⟨earlier, old, rfl⟩ ⟨row, new, same.symm⟩

theorem registerProfile_cases (registered : List DeviceMapProfile)
    (call : Option DeviceMapProfile) :
    registerProfile registered call = (registered, false) ∨
      ∃ profile, call = some profile ∧
        (∀ other ∈ registered, other.poolAddresses.Disjoint profile.poolAddresses) ∧
        registered.length < deviceRegisterMapMaxProfiles ∧
        registerProfile registered call = (registered ++ [profile], true) := by
  cases call with
  | none => exact .inl rfl
  | some profile =>
      cases collision : collisionFound registered profile with
      | true => exact .inl (by simp [registerProfile, collision])
      | false =>
          by_cases full : registered.length ≥ deviceRegisterMapMaxProfiles
          · exact .inl (by simp [registerProfile, collision, full])
          · have apart := collisionFound_eq_false.mp collision
            exact .inr ⟨profile, rfl, apart, Nat.lt_of_not_le full,
              by simp [registerProfile, collision, full]⟩

theorem registerProfile_rejected (rejected : (registerProfile registered call).2 = false) :
    (registerProfile registered call).1 = registered := by
  rcases registerProfile_cases registered call with
    unchanged | ⟨_, _, _, _, accepted⟩
  · rw [unchanged]
  · rw [accepted] at rejected
    cases rejected

theorem SeparateProfiles.register (separate : SeparateProfiles registered) :
    SeparateProfiles (registerProfile registered call).1 := by
  rcases registerProfile_cases registered call with
    unchanged | ⟨profile, _, apart, _, accepted⟩
  · rw [unchanged]
    exact separate
  · rw [accepted]
    apply List.pairwise_append.mpr
    refine ⟨separate, List.pairwise_singleton _ _, ?_⟩
    intro other tracked next last
    obtain rfl := List.mem_singleton.mp last
    exact apart other tracked

end Register

theorem registeredProfiles_append (calls : List (Option DeviceMapProfile))
    (call : Option DeviceMapProfile) :
    registeredProfiles (calls ++ [call]) = (registerProfile (registeredProfiles calls) call).1 := by
  simp [registeredProfiles]

theorem registeredProfiles_separate (calls : List (Option DeviceMapProfile)) :
    SeparateProfiles (registeredProfiles calls) := by
  induction calls using List.reverseRecOn with
  | nil => exact List.Pairwise.nil
  | append_singleton calls call ih =>
      rw [registeredProfiles_append]
      exact ih.register

theorem SeparateProfiles.nodup_iff {registered : List DeviceMapProfile}
    (separate : SeparateProfiles registered) :
    (namedAddresses registered).Nodup ↔
      ∀ profile ∈ registered, profile.poolAddresses.Nodup := by
  rw [namedAddresses, List.nodup_flatMap]
  exact and_iff_left separate

theorem SeparateProfiles.disjoint {registered : List DeviceMapProfile}
    (separate : SeparateProfiles registered) {i j : Nat} {first second : DeviceMapProfile}
    (different : i ≠ j) (atI : registered[i]? = some first) (atJ : registered[j]? = some second) :
    first.poolAddresses.Disjoint second.poolAddresses := by
  obtain ⟨boundI, rfl⟩ := List.getElem?_eq_some_iff.mp atI
  obtain ⟨boundJ, rfl⟩ := List.getElem?_eq_some_iff.mp atJ
  have ordered := List.pairwise_iff_getElem.mp separate
  rcases Nat.lt_or_gt_of_ne different with before | after
  · exact ordered i j boundI boundJ before
  · exact (ordered j i boundJ boundI after).symm

/-- Registration keeps different profiles apart; what a table does on its own is
left to the table. -/
theorem registration_separates (calls : List (Option DeviceMapProfile))
    (call : Option DeviceMapProfile) :
    let registered := registeredProfiles calls
    ((registerProfile registered call).2 = false →
        (registerProfile registered call).1 = registered) ∧
      (∀ (i j : Nat) (first second : DeviceMapProfile), i ≠ j → registered[i]? = some first →
        registered[j]? = some second → first.poolAddresses.Disjoint second.poolAddresses) ∧
      ((∀ profile ∈ registered, profile.poolAddresses.Nodup ∧
          ∀ address ∈ profile.poolAddresses, address.toNat < internalPoolSize) →
        (namedAddresses registered).Nodup ∧
          ∀ address ∈ namedAddresses registered, address.toNat < internalPoolSize) := by
  have separate := registeredProfiles_separate calls
  refine ⟨registerProfile_rejected, fun i j first second => separate.disjoint, fun sound => ?_⟩
  constructor
  · apply separate.nodup_iff.mpr
    intro profile tracked
    exact (sound profile tracked).1
  · intro address named
    obtain ⟨profile, tracked, member⟩ := List.mem_flatMap.mp named
    exact (sound profile tracked).2 address member

/-- A table that names one slot twice, and a slot that does not exist. -/
def carelessProfile : DeviceMapProfile where
  table := [⟨0x0000, 0xE000, .ro⟩, ⟨0x0001, 0xE000, .ro⟩, ⟨0x0002, 0xFFFF, .ro⟩]
  readChunk := 20

theorem registration_accepts_careless :
    ¬ ∀ calls : List (Option DeviceMapProfile),
      (namedAddresses (registeredProfiles calls)).Nodup ∧
        ∀ address ∈ namedAddresses (registeredProfiles calls),
          address.toNat < internalPoolSize := by
  intro claimed
  have once := (claimed [some carelessProfile]).1
  revert once
  decide

end Rs485Gateway
