import Rs485Gateway.Cmos.HandleLine
import Rs485Gateway.Interaction.Guarantee

/-! `ctx_handle_line` in the two subscriber threads of the daemon: `strtok` keeps one
saved position for the whole process. -/

namespace Rs485Gateway

open Interaction

structure StrtokCall where
  text : Option CStr
  delims : CStr
  deriving DecidableEq

def StrtokCall.cut (call : StrtokCall) (saved : CStr) : Option CStr × CStr :=
  strtok call.delims (call.text.getD saved)

abbrev strtokSig : Sig where
  Op := StrtokCall
  Res _ := Option CStr
  Loop := DataFields × Option CStr
  Out _ := DataFields

abbrev LineProg := Prog strtokSig

def strtokFirst (text delims : CStr) : LineProg (Option CStr) :=
  @Prog.perform strtokSig (StrtokCall.mk (some text) delims)

def strtokNext (delims : CStr) : LineProg (Option CStr) :=
  @Prog.perform strtokSig (StrtokCall.mk none delims)

def lineCode : Code strtokSig
  | (fields, none) => .ret fields
  | (fields, some token) => do
      let t ← strtokNext fieldEnds
      .enter (takeField fields token, t)

/-- `dispatch` with its calls of `strtok`. -/
def dispatchShared (slot : SubSlot) (topic data : CStr) : LineProg (Option (CStr × CStr)) :=
  if ¬ slot.filtered then .ret (some (topic, data))
  else do
    let t ← strtokFirst (data.take (1024 - 1)) fieldEnds
    let fields ← .enter (noFields, t)
    .ret (
      if ¬ slot.passes fields then none
      else if slot.filterKey ≠ [] then some (topic, fields.value.getD [])
      else some (topic, data))

def ctxHandleLineShared (slots : List SubSlot) (subSlot : Option Nat) (line : CStr) :
    LineProg (Option (CStr × CStr)) := do
  let cmd ← strtokFirst line wordEnds
  if cmd ≠ some (text ['M', 'S', 'G']) then .ret none
  else do
    let topic ← strtokNext wordEnds
    let data ← strtokNext lineEnds
    match topic, data with
    | some topic, some data =>
        match openSlot slots subSlot topic with
        | none => .ret none
        | some slot => dispatchShared slot topic data
    | _, _ => .ret none

inductive SubThread where
  | inverter
  | ups
  deriving DecidableEq

structure HandledLine where
  subSlot : Option Nat
  line : CStr
  call : Option (CStr × CStr)
  deriving DecidableEq

/-- Each thread takes the next line of one of its connections when it is done with one;
the shared state is the saved text. -/
def strtokSystem (slots : SubThread → List SubSlot) :
    System strtokSig SubThread CStr (Option Nat × CStr) (Option HandledLine) where
  code := lineCode
  perform _ call _ saved := some (some (call.cut saved).1, (call.cut saved).2)
  resume thread next _ :=
    some ((ctxHandleLineShared (slots thread) next.1 next.2).bind fun call =>
      .ret (some ⟨next.1, next.2, call⟩))

abbrev StrtokConfig := Config strtokSig SubThread CStr (Option HandledLine)

def strtokStart : StrtokConfig where
  shared := []
  control _ := .ret none
  history := []

/-- Whenever this thread went on with the saved text, the call of `strtok` before was its
own. -/
def Undisturbed (thread : SubThread) : List (SubThread × Event strtokSig) → Prop
  | [] => True
  | (u, ⟨call, _⟩) :: older =>
      (u = thread → call.text = none → older.head?.map Prod.fst = some thread) ∧
        Undisturbed thread older

section Fields

def fieldsFrom (rest : CStr) (fields : DataFields) : DataFields :=
  fieldLoop (rest.length + 1) rest fields

theorem strtok_shorter {delims rest token later : CStr}
    (cut : strtok delims rest = (some token, later)) : later.length < rest.length := by
  unfold strtok at cut
  simp only at cut
  split at cut
  · cases cut
  · rename_i nonempty
    cases cut
    have start := (List.dropWhile_sublist (l := rest) fun byte => delims.contains byte).length_le
    have pos := List.length_pos_iff.mpr nonempty
    have inner := (List.dropWhile_sublist (l := rest.dropWhile fun byte => delims.contains byte)
      fun byte => decide ¬ delims.contains byte = true).length_le
    rw [List.length_drop]
    omega

theorem fieldLoop_fuel {fuel : Nat} {rest : CStr} (enough : rest.length < fuel)
    (fields : DataFields) : fieldLoop fuel rest fields = fieldsFrom rest fields := by
  induction fuel using Nat.strong_induction_on generalizing rest fields with
  | _ fuel ih =>
      obtain ⟨fuel, rfl⟩ := Nat.exists_eq_succ_of_ne_zero (Nat.ne_of_gt (Nat.zero_lt_of_lt enough))
      rw [fieldsFrom, Nat.succ_eq_add_one, fieldLoop, fieldLoop]
      rcases cut : strtok fieldEnds rest with ⟨token, later⟩
      cases token with
      | none => rfl
      | some token =>
          have shorter := strtok_shorter cut
          have first := @ih fuel (Nat.lt_succ_self _) later (by omega) (takeField fields token)
          have second := @ih rest.length (by omega) later shorter (takeField fields token)
          exact first.trans second.symm

def fieldsAfter (fields : DataFields) (token : Option CStr) (rest : CStr) : DataFields :=
  match token with
  | none => fields
  | some token => fieldsFrom rest (takeField fields token)

theorem fieldsFrom_cut (rest : CStr) (fields : DataFields) :
    fieldsFrom rest fields =
      fieldsAfter fields (strtok fieldEnds rest).1 (strtok fieldEnds rest).2 := by
  rw [fieldsFrom, fieldLoop]
  rcases cut : strtok fieldEnds rest with ⟨token, later⟩
  cases token with
  | none => rfl
  | some token => exact fieldLoop_fuel (strtok_shorter cut) _

end Fields

section Alone

/-- The ghost state is what this thread's own last call saved; it relies on every call
going on from there. -/
def strtokSpec : Protocol strtokSig CStr where
  allow _ _ := True
  rely saved call answer := answer = (call.cut saved).1
  next saved call _ := (call.cut saved).2
  enter _ _ := True
  leave loop saved fields _ := fields = fieldsAfter loop.1 loop.2 saved

theorem strtokSpec_verifies : strtokSpec.Verifies lineCode := by
  rintro ⟨fields, token⟩ saved -
  cases token with
  | none => rfl
  | some token =>
      refine ⟨trivial, ?_⟩
      rintro answer rfl
      refine ⟨trivial, ?_⟩
      rintro out after rfl
      exact (fieldsFrom_cut saved (takeField fields token)).symm

theorem call_safe {post : Option (CStr × CStr) → CStr → Prop} {text token : Option CStr}
    {delims saved rest : CStr} {next : Option CStr → LineProg (Option (CStr × CStr))}
    (cut : strtok delims (text.getD saved) = (token, rest))
    (safe : Safe strtokSpec post rest (next token)) :
    Safe strtokSpec post saved ((@Prog.perform strtokSig ⟨text, delims⟩).bind next) := by
  refine ⟨trivial, ?_⟩
  rintro answer rfl
  have whole : StrtokCall.cut ⟨text, delims⟩ saved = (token, rest) := cut
  have left : strtokSpec.next saved ⟨text, delims⟩ (StrtokCall.cut ⟨text, delims⟩ saved).1 = rest :=
    congrArg Prod.snd whole
  rw [left, whole]
  exact safe

theorem dispatchShared_safe (slot : SubSlot) (topic data saved : CStr) :
    Safe strtokSpec (fun call _ => call = dispatch slot topic data) saved
      (dispatchShared slot topic data) := by
  rw [dispatchShared, dispatch]
  split
  · rfl
  · refine call_safe rfl ⟨trivial, ?_⟩
    rintro fields after parsed
    have same : fields = parseFields data := parsed.trans (fieldsFrom_cut _ noFields).symm
    rw [same]
    rfl

/-- Undisturbed, the calls make the callback that the line alone makes. -/
theorem ctxHandleLineShared_safe (slots : List SubSlot) (subSlot : Option Nat)
    (line saved : CStr) :
    Safe strtokSpec (fun call _ => call = ctxHandleLine slots subSlot line) saved
      (ctxHandleLineShared slots subSlot line) := by
  rw [ctxHandleLine, parseHeader, ctxHandleLineShared]
  rcases cmdCut : strtok wordEnds line with ⟨cmd, rest⟩
  refine call_safe cmdCut ?_
  cases cmd with
  | none => rfl
  | some cmd =>
      by_cases isMsg : cmd = text ['M', 'S', 'G']
      · subst isMsg
        rw [if_neg (by simp)]
        rcases topicCut : strtok wordEnds rest with ⟨topic, later⟩
        refine call_safe topicCut ?_
        rcases dataCut : strtok lineEnds later with ⟨data, last⟩
        refine call_safe dataCut ?_
        cases topic with
        | none => simp [topicCut]
        | some topic =>
            cases data with
            | none => simp [topicCut, dataCut]
            | some data =>
                cases opened : openSlot slots subSlot topic with
                | none => simp [opened, topicCut, dataCut]
                | some slot =>
                    simpa [opened, topicCut, dataCut] using
                      dispatchShared_safe slot topic data last
      · rw [if_pos (by simpa using isMsg)]
        simp [isMsg]

end Alone

section Shared

abbrev StrtokHistory := List (SubThread × Event strtokSig)

def savedAfter : StrtokHistory → CStr
  | [] => []
  | (_, ⟨call, _⟩) :: older => (call.cut (savedAfter older)).2

def Answered : StrtokHistory → Prop
  | [] => True
  | (_, ⟨call, answer⟩) :: older => answer = (call.cut (savedAfter older)).1 ∧ Answered older

variable {slots : SubThread → List SubSlot} {c : StrtokConfig} {thread : SubThread}
  {history : StrtokHistory}

theorem reaches_answered (reached : (strtokSystem slots).Reaches strtokStart c) :
    c.shared = savedAfter c.history ∧ Answered c.history := by
  induction reached with
  | refl => exact ⟨rfl, trivial⟩
  | step before moved ih =>
      obtain ⟨saved, answered⟩ := ih
      cases System.step_cases moved with
      | resume atHome resumed => exact ⟨saved, answered⟩
      | block atOp performed => cases performed
      | complete atOp performed =>
          cases performed
          rw [saved]
          exact ⟨rfl, rfl, answered⟩
      | enter atCall => exact ⟨saved, answered⟩

theorem cut_first {text delims saved other : CStr} :
    StrtokCall.cut ⟨some text, delims⟩ saved = StrtokCall.cut ⟨some text, delims⟩ other := rfl

theorem ghost_saved (undisturbed : Undisturbed thread history)
    (own : history.head?.map Prod.fst = some thread) :
    strtokSpec.ghost [] thread history = savedAfter history := by
  induction history with
  | nil => cases own
  | cons event older ih =>
      obtain ⟨u, ⟨⟨text, delims⟩, answer⟩⟩ := event
      obtain rfl : u = thread := by simpa using own
      rw [Protocol.ghost_self]
      cases text with
      | some text => exact congrArg Prod.snd cut_first
      | none =>
          have same := ih undisturbed.2 (undisturbed.1 rfl rfl)
          rw [same]
          rfl

theorem trusted_of_undisturbed (answered : Answered history)
    (undisturbed : Undisturbed thread history) : strtokSpec.Trusted [] thread history := by
  induction history with
  | nil => trivial
  | cons event older ih =>
      obtain ⟨u, ⟨⟨text, delims⟩, answer⟩⟩ := event
      refine ⟨?_, ih answered.2 undisturbed.2⟩
      rintro rfl
      have cut := answered.1
      cases text with
      | some text => exact cut
      | none =>
          rw [ghost_saved undisturbed.2 (undisturbed.1 rfl rfl)]
          exact cut

end Shared

/-- As long as no thread goes on with a text the other one saved, every line is handled as
if it were alone. -/
theorem undisturbed_lines_alone (slots : SubThread → List SubSlot) (c : StrtokConfig)
    (reached : (strtokSystem slots).Reaches strtokStart c)
    (undisturbed : ∀ thread, Undisturbed thread c.history) (thread : SubThread)
    (handled : HandledLine) (returned : c.control thread = .ret (some handled)) :
    handled.call = ctxHandleLine (slots thread) handled.subSlot handled.line := by
  let atHome (home : Option HandledLine) (_ : CStr) : Prop := ∀ handled, home = some handled →
    handled.call = ctxHandleLine (slots thread) handled.subSlot handled.line
  have resumes : ∀ choice home prog, (strtokSystem slots).resume thread choice home = some prog →
      ∀ g, atHome home g → Safe strtokSpec atHome g prog := by
    intro next home prog resumed g _
    cases resumed
    refine (ctxHandleLineShared_safe (slots thread) next.1 next.2 g).bind ?_
    rintro call g' rfl handled same
    cases same
    rfl
  have starts : SafeThread strtokSpec [] atHome thread strtokStart := by
    intro handled ended
    cases ended
  have trusted := trusted_of_undisturbed (reaches_answered reached).2 (undisturbed thread)
  have safe := (System.Reaches.guarantee strtokSpec_verifies resumes rfl starts reached trusted).1
  exact safe.returned returned handled rfl

section Schedules

instance decidableUndisturbed (thread : SubThread) :
    (history : StrtokHistory) → Decidable (Undisturbed thread history)
  | [] => .isTrue trivial
  | (u, ⟨call, _⟩) :: older =>
      have := decidableUndisturbed thread older
      inferInstanceAs (Decidable ((u = thread → call.text = none →
        older.head?.map Prod.fst = some thread) ∧ Undisturbed thread older))

def returned : LineProg (Option HandledLine) → Option HandledLine
  | .ret home => home
  | _ => none

theorem returned_eq {prog : LineProg (Option HandledLine)} {handled : HandledLine}
    (home : returned prog = some handled) : prog = .ret (some handled) := by
  cases prog with
  | ret value => exact congrArg _ home
  | op operation next => cases home
  | call loop next => cases home

def msgLine (data : List Char) : CStr := text (['M', 'S', 'G', ' ', 't', ' '] ++ data ++ ['\n'])

def plainSlot : SubSlot := ⟨text ['t'], [], [], [], true, true⟩

end Schedules

theorem undisturbed_lines_alone_turns : ∃ c : StrtokConfig,
    (strtokSystem fun _ => [plainSlot]).Reaches strtokStart c ∧
      ∃ handled, c.control .ups = .ret (some handled) ∧ handled.line = msgLine ['b'] ∧
        handled.call = ctxHandleLine [plainSlot] handled.subSlot handled.line := by
  obtain ⟨c, reached, passed⟩ := System.reaches_of_check (strtokSystem fun _ => [plainSlot])
    strtokStart
    (List.replicate 4 (.inverter, (some 0, msgLine ['a'])) ++
      List.replicate 4 (.ups, (some 0, msgLine ['b'])))
    (fun c => Undisturbed .inverter c.history ∧ Undisturbed .ups c.history ∧
      returned (c.control .ups) =
        some ⟨some 0, msgLine ['b'], some (text ['t'], text ['b'])⟩)
    (by decide +kernel)
  obtain ⟨inverter, ups, home⟩ := of_decide_eq_true passed
  have undisturbed (thread : SubThread) : Undisturbed thread c.history := by
    cases thread
    · exact inverter
    · exact ups
  have alone := undisturbed_lines_alone _ c reached undisturbed .ups _ (returned_eq home)
  exact ⟨c, reached, _, returned_eq home, rfl, alone⟩

/-- The other thread starts on its line between two calls, and its data is taken for
this thread's. -/
theorem strtok_disturbed : ¬ ∀ (slots : SubThread → List SubSlot) (c : StrtokConfig),
    (strtokSystem slots).Reaches strtokStart c → ∀ first second : HandledLine,
      c.control .inverter = .ret (some first) → c.control .ups = .ret (some second) →
      (parseHeader first.line).isSome → (parseHeader second.line).isSome →
        first.call = ctxHandleLine (slots .inverter) first.subSlot first.line ∧
          second.call = ctxHandleLine (slots .ups) second.subSlot second.line := by
  intro claim
  obtain ⟨c, reached, passed⟩ := System.reaches_of_check (strtokSystem fun _ => [plainSlot])
    strtokStart
    ([.inverter, .inverter, .inverter, .ups, .ups, .inverter, .ups, .ups].map fun thread =>
      (thread, (some 0, msgLine (if thread = .inverter then ['a'] else ['b']))))
    (fun c =>
      returned (c.control .inverter) =
          some ⟨some 0, msgLine ['a'], some (text ['t'], text ['t', ' ', 'b'])⟩ ∧
        returned (c.control .ups) = some ⟨some 0, msgLine ['b'], none⟩)
    (by decide +kernel)
  obtain ⟨inverter, ups⟩ := of_decide_eq_true passed
  have alone := (claim _ c reached _ _ (returned_eq inverter) (returned_eq ups) (by decide)
    (by decide)).1
  revert alone
  decide

end Rs485Gateway
