import Mathlib.Data.List.Basic

/-! # Programs that ask an outside party

A `Dialogue` asks a device, a clock or a library and goes on with the answer.
`Dialogue.Always` holds of every way the questions can be answered, under a
monitor that follows the exchanges; `always_hold` carries it to the transcript
with any one party.  `Program` adds a state and exceptions, and the `Within`
lemmas are its weakest preconditions. -/
set_option autoImplicit false
namespace Ioniq5Ecan.Library

inductive Dialogue (Ask : Type) (Answer : Ask → Type) (Value : Type) : Type
  | done (value : Value)
  | ask (question : Ask) (next : Answer question → Dialogue Ask Answer Value)

structure Exchange (Ask : Type) (Answer : Ask → Type) where
  question : Ask
  answer : Answer question

/-- `allows` says which questions may be asked, `notes` what an exchange tells. -/
structure Monitor (Ask : Type) (Answer : Ask → Type) (View : Type) where
  allows : View → Ask → Prop
  notes : View → (question : Ask) → Answer question → View

section Dialogues
variable {Ask : Type} {Answer : Ask → Type} {Value Other View : Type}

namespace Monitor

def follow (monitor : Monitor Ask Answer View) : View → List (Exchange Ask Answer) → View
  | view, [] => view
  | view, exchange :: rest =>
      follow monitor (monitor.notes view exchange.question exchange.answer) rest

/-- Every question was allowed when it was asked. -/
def Obeyed (monitor : Monitor Ask Answer View) : View → List (Exchange Ask Answer) → Prop
  | _, [] => True
  | view, exchange :: rest =>
      monitor.allows view exchange.question ∧
        Obeyed monitor (monitor.notes view exchange.question exchange.answer) rest

/-- The monitor that allows every question and keeps the exchanges. -/
def transcript : Monitor Ask Answer (List (Exchange Ask Answer)) where
  allows _ _ := True
  notes past question answer := past ++ [⟨question, answer⟩]

theorem follow_transcript (exchanges : List (Exchange Ask Answer)) :
    ∀ past, transcript.follow past exchanges = past ++ exchanges := by
  induction exchanges with
  | nil => intro past; exact (List.append_nil past).symm
  | cons exchange rest ih =>
      intro past
      exact (ih _).trans (List.append_assoc past [exchange] rest)

/-- The balance rule: what an account holds and what was given back is what it held and what was
taken. -/
theorem follow_balance (monitor : Monitor Ask Answer View) (account : View → Nat)
    (takes returns : Exchange Ask Answer → Bool)
    (booked : ∀ view exchange, monitor.allows view exchange.question →
      account (monitor.notes view exchange.question exchange.answer) + (returns exchange).toNat =
        account view + (takes exchange).toNat)
    (exchanges : List (Exchange Ask Answer)) :
    ∀ view, monitor.Obeyed view exchanges →
      account (monitor.follow view exchanges) + exchanges.countP returns =
        account view + exchanges.countP takes := by
  induction exchanges with
  | nil => intro view _; simp [follow]
  | cons exchange rest ih =>
      intro view obeyed
      have step := booked view exchange obeyed.1
      have later := ih _ obeyed.2
      rw [follow, List.countP_cons, List.countP_cons]
      cases given : returns exchange <;> cases taken : takes exchange <;>
        simp only [given, taken, Bool.toNat_true, Bool.toNat_false, if_true, Bool.false_eq_true,
          if_false] at step ⊢ <;> omega

end Monitor

namespace Dialogue

def bind : Dialogue Ask Answer Value → (Value → Dialogue Ask Answer Other) →
    Dialogue Ask Answer Other
  | .done value, next => next value
  | .ask question continue', next => .ask question fun answer => (continue' answer).bind next

/-- The exchanges with one party, which answers from all it was asked before, and the value. -/
def hold (party : List (Exchange Ask Answer) → (question : Ask) → Answer question) :
    Dialogue Ask Answer Value → List (Exchange Ask Answer) → List (Exchange Ask Answer) × Value
  | .done value, past => (past, value)
  | .ask question next, past =>
      (next (party past question)).hold party (past ++ [⟨question, party past question⟩])

/-- Whatever is answered, only allowed questions are asked and the end meets `post`. -/
def Always (monitor : Monitor Ask Answer View) (post : View → Value → Prop) :
    View → Dialogue Ask Answer Value → Prop
  | view, .done value => post view value
  | view, .ask question next =>
      monitor.allows view question ∧
        ∀ answer, Always monitor post (monitor.notes view question answer) (next answer)

variable {monitor : Monitor Ask Answer View}

theorem always_mono {post weaker : View → Value → Prop}
    (weakens : ∀ view value, post view value → weaker view value)
    (dialogue : Dialogue Ask Answer Value) :
    ∀ view, dialogue.Always monitor post view → dialogue.Always monitor weaker view := by
  induction dialogue with
  | done value => intro view holds; exact weakens view value holds
  | ask question next ih =>
      intro view holds
      exact ⟨holds.1, fun answer => ih answer _ (holds.2 answer)⟩

theorem always_bind {post : View → Other → Prop} (dialogue : Dialogue Ask Answer Value)
    (next : Value → Dialogue Ask Answer Other) :
    ∀ view, (dialogue.bind next).Always monitor post view ↔
      dialogue.Always monitor (fun view value => (next value).Always monitor post view) view := by
  induction dialogue with
  | done value => intro view; exact Iff.rfl
  | ask question continue' ih =>
      intro view
      simp only [bind, Always, ih]

/-- What always holds, holds of the transcript with every party. -/
theorem always_hold {post : View → Value → Prop}
    (party : List (Exchange Ask Answer) → (question : Ask) → Answer question)
    (dialogue : Dialogue Ask Answer Value) :
    ∀ view past, dialogue.Always monitor post view →
      ∃ exchanges, (dialogue.hold party past).1 = past ++ exchanges ∧
        monitor.Obeyed view exchanges ∧
        post (monitor.follow view exchanges) (dialogue.hold party past).2 := by
  induction dialogue with
  | done value =>
      intro view past holds
      exact ⟨[], (List.append_nil past).symm, trivial, holds⟩
  | ask question next ih =>
      intro view past holds
      obtain ⟨exchanges, transcript, obeyed, ending⟩ :=
        ih (party past question) _ (past ++ [⟨question, party past question⟩])
          (holds.2 (party past question))
      refine ⟨⟨question, party past question⟩ :: exchanges, ?_, ⟨holds.1, obeyed⟩, ending⟩
      rw [hold, transcript, List.append_assoc, List.singleton_append]

end Dialogue
end Dialogues

/-! ## State and exceptions -/

/-- A function of the program under study: it may ask, change the state and throw. -/
def Program (Ask : Type) (Answer : Ask → Type) (State Error Value : Type) : Type :=
  State → Dialogue Ask Answer (State × Except Error Value)

namespace Program
section Rules
variable {Ask : Type} {Answer : Ask → Type} {State Error Value Other View : Type}

instance instMonad : Monad (Program Ask Answer State Error) where
  pure value := fun state => .done (state, .ok value)
  bind program next := fun state => (program state).bind fun result =>
    match result.2 with
    | .ok value => next value result.1
    | .error what => .done (result.1, .error what)

def ask (question : Ask) : Program Ask Answer State Error (Answer question) :=
  fun state => .ask question fun answer => .done (state, .ok answer)

def fetch : Program Ask Answer State Error State := fun state => .done (state, .ok state)

def change (update : State → State) : Program Ask Answer State Error Unit :=
  fun state => .done (update state, .ok ())

def raise (what : Error) : Program Ask Answer State Error Value :=
  fun state => .done (state, .error what)

/-- `if (condition) throw what;` -/
def raiseIf (condition : Bool) (what : Error) : Program Ask Answer State Error Unit :=
  if condition then raise what else pure ()

/-- `if (condition) program;` -/
def runIf (program : Program Ask Answer State Error Unit) (condition : Bool) :
    Program Ask Answer State Error Unit :=
  if condition then program else pure ()

/-- `try { program } catch (what) { handler }`. -/
def catching (program : Program Ask Answer State Error Value)
    (handler : Error → Program Ask Answer State Error Value) :
    Program Ask Answer State Error Value :=
  fun state => (program state).bind fun result =>
    match result.2 with
    | .ok value => .done (result.1, .ok value)
    | .error what => handler what result.1

/-- The call as its owner sees it: an exception is an outcome like any other. -/
def outcome (program : Program Ask Answer State Error Value) :
    Program Ask Answer State Error (Except Error Value) :=
  fun state => (program state).bind fun result => .done (result.1, .ok result.2)

/-- From this state and view the program only asks what is allowed, returns within `post` and
throws within `thrown`. -/
def Within (monitor : Monitor Ask Answer View) (program : Program Ask Answer State Error Value)
    (post : Value → State → View → Prop) (thrown : Error → State → View → Prop)
    (state : State) (view : View) : Prop :=
  (program state).Always monitor
    (fun view result =>
      match result.2 with
      | .ok value => post value result.1 view
      | .error what => thrown what result.1 view) view

variable {monitor : Monitor Ask Answer View} {post : Value → State → View → Prop}
  {thrown : Error → State → View → Prop} {state : State} {view : View}

@[simp] theorem within_pure (value : Value) :
    Within monitor (pure value : Program Ask Answer State Error Value) post thrown state view ↔
      post value state view :=
  Iff.rfl

@[simp] theorem within_bind {program : Program Ask Answer State Error Other}
    {next : Other → Program Ask Answer State Error Value} :
    Within monitor (program >>= next) post thrown state view ↔
      Within monitor program
        (fun value state view => Within monitor (next value) post thrown state view) thrown
        state view := by
  show Dialogue.Always monitor _ view (Dialogue.bind (program state) _) ↔ _
  rw [Dialogue.always_bind]
  constructor <;>
  · intro holds
    refine Dialogue.always_mono ?_ _ _ holds
    rintro view ⟨state, result⟩ reached
    cases result <;> exact reached

@[simp] theorem within_fetch {post : State → State → View → Prop} :
    Within monitor (fetch : Program Ask Answer State Error State) post thrown state view ↔
      post state state view :=
  Iff.rfl

@[simp] theorem within_change {update : State → State} {post : Unit → State → View → Prop} :
    Within monitor (change update : Program Ask Answer State Error Unit) post thrown state view ↔
      post () (update state) view :=
  Iff.rfl

@[simp] theorem within_raise {what : Error} :
    Within monitor (raise what : Program Ask Answer State Error Value) post thrown state view ↔
      thrown what state view :=
  Iff.rfl

@[simp] theorem within_catching {program : Program Ask Answer State Error Value}
    {handler : Error → Program Ask Answer State Error Value} :
    Within monitor (program.catching handler) post thrown state view ↔
      Within monitor program post
        (fun what state view => Within monitor (handler what) post thrown state view)
        state view := by
  show Dialogue.Always monitor _ view (Dialogue.bind (program state) _) ↔ _
  rw [Dialogue.always_bind]
  constructor <;>
  · intro holds
    refine Dialogue.always_mono ?_ _ _ holds
    rintro view ⟨state, result⟩ reached
    cases result <;> exact reached

@[simp] theorem within_outcome {program : Program Ask Answer State Error Value}
    {post : Except Error Value → State → View → Prop} :
    Within monitor program.outcome post thrown state view ↔
      Within monitor program (fun value state view => post (.ok value) state view)
        (fun what state view => post (.error what) state view) state view := by
  show Dialogue.Always monitor _ view (Dialogue.bind (program state) _) ↔ _
  rw [Dialogue.always_bind]
  constructor <;>
  · intro holds
    refine Dialogue.always_mono ?_ _ _ holds
    rintro view ⟨state, result⟩ reached
    cases result <;> exact reached

@[simp] theorem within_ite {condition : Prop} [Decidable condition]
    {program other : Program Ask Answer State Error Value} :
    Within monitor (if condition then program else other) post thrown state view ↔
      (condition → Within monitor program post thrown state view) ∧
        (¬ condition → Within monitor other post thrown state view) := by
  by_cases condition <;> simp [*]

@[simp] theorem within_raiseIf {condition : Bool} {what : Error}
    {post : Unit → State → View → Prop} :
    Within monitor (raiseIf condition what : Program Ask Answer State Error Unit) post thrown
        state view ↔
      (condition = true → thrown what state view) ∧
        (condition = false → post () state view) := by
  cases condition <;> simp [raiseIf]

@[simp] theorem within_runIf {condition : Bool} {program : Program Ask Answer State Error Unit}
    {post : Unit → State → View → Prop} :
    Within monitor (program.runIf condition) post thrown state view ↔
      (condition = true → Within monitor program post thrown state view) ∧
        (condition = false → post () state view) := by
  cases condition <;> simp [runIf]

theorem within_mono {program : Program Ask Answer State Error Value}
    {post' : Value → State → View → Prop} {thrown' : Error → State → View → Prop}
    (holds : Within monitor program post thrown state view)
    (returns : ∀ value state view, post value state view → post' value state view)
    (throws : ∀ what state view, thrown what state view → thrown' what state view) :
    Within monitor program post' thrown' state view := by
  refine Dialogue.always_mono ?_ _ _ holds
  rintro view ⟨state, result⟩ reached
  cases result with
  | ok value => exact returns value state view reached
  | error what => exact throws what state view reached

/-- The transcript of a program after any past, and what its end meets. -/
theorem exists_run_from (party : List (Exchange Ask Answer) → (question : Ask) → Answer question)
    {program : Program Ask Answer State Error Value} (past : List (Exchange Ask Answer))
    (holds : Within monitor program post thrown state view) :
    ∃ exchanges final result,
      (program state).hold party past = (past ++ exchanges, final, result) ∧
        monitor.Obeyed view exchanges ∧
        (∀ value, result = .ok value → post value final (monitor.follow view exchanges)) ∧
        ∀ what, result = .error what → thrown what final (monitor.follow view exchanges) := by
  obtain ⟨exchanges, transcript, obeyed, ending⟩ :=
    Dialogue.always_hold party (program state) view past holds
  rcases run : (program state).hold party past with ⟨all, final, result⟩
  rw [run] at transcript ending
  subst transcript
  refine ⟨exchanges, final, result, rfl, obeyed, fun value same => ?_, fun what same => ?_⟩
  · subst same
    exact ending
  · subst same
    exact ending

/-- A program that never throws ends within its postcondition, with every party. -/
theorem exists_run (party : List (Exchange Ask Answer) → (question : Ask) → Answer question)
    {program : Program Ask Answer State Error Value}
    (holds : Within monitor program post (fun _ _ _ => False) state view) :
    ∃ exchanges final value,
      (program state).hold party [] = (exchanges, final, .ok value) ∧
        monitor.Obeyed view exchanges ∧ post value final (monitor.follow view exchanges) := by
  obtain ⟨exchanges, final, result, run, obeyed, returned, threw⟩ := exists_run_from party [] holds
  cases result with
  | ok value => exact ⟨exchanges, final, value, run, obeyed, returned value rfl⟩
  | error what => exact (threw what rfl).elim

/-- From every state of the invariant that meets `pre`, the program keeps the invariant whether it
returns or throws, and returns within `post`. -/
def Keeping (monitor : Monitor Ask Answer View) (inv : State → View → Prop)
    (pre : State → View → Prop) (program : Program Ask Answer State Error Value)
    (post : Value → State → View → Prop) : Prop :=
  ∀ state view, inv state view → pre state view →
    Within monitor program (fun value state view => inv state view ∧ post value state view)
      (fun _ state view => inv state view) state view

variable {inv pre : State → View → Prop}

theorem keeping_bind {program : Program Ask Answer State Error Other}
    {next : Other → Program Ask Answer State Error Value} (middle : Other → State → View → Prop)
    (first : Keeping monitor inv pre program middle)
    (second : ∀ value, Keeping monitor inv (middle value) (next value) post) :
    Keeping monitor inv pre (program >>= next) post := by
  intro state view holds start
  rw [within_bind]
  refine within_mono (first state view holds start) ?_ ?_
  · intro value state view reached
    exact second value state view reached.1 reached.2
  · intro what state view reached
    exact reached

theorem keeping_pure {value : Value}
    (ends : ∀ state view, inv state view → pre state view → post value state view) :
    Keeping monitor inv pre (pure value : Program Ask Answer State Error Value) post :=
  fun state view holds start => ⟨holds, ends state view holds start⟩

theorem keeping_raise {what : Error} :
    Keeping monitor inv pre (raise what : Program Ask Answer State Error Value) post :=
  fun _ _ holds _ => holds

theorem keeping_change {update : State → State} {post : Unit → State → View → Prop}
    (kept : ∀ state view, inv state view → pre state view →
      inv (update state) view ∧ post () (update state) view) :
    Keeping monitor inv pre (change update : Program Ask Answer State Error Unit) post :=
  fun state view holds start => kept state view holds start

theorem keeping_ite {condition : Prop} [Decidable condition]
    {program other : Program Ask Answer State Error Value}
    (yes : condition → Keeping monitor inv pre program post)
    (no : ¬ condition → Keeping monitor inv pre other post) :
    Keeping monitor inv pre (if condition then program else other) post := by
  intro state view holds start
  rw [within_ite]
  exact ⟨fun met => yes met state view holds start, fun unmet => no unmet state view holds start⟩

theorem keeping_raiseIf {condition : Bool} {what : Error} {post : Unit → State → View → Prop}
    (goes : ∀ state view, condition = false → inv state view → pre state view →
      post () state view) :
    Keeping monitor inv pre (raiseIf condition what : Program Ask Answer State Error Unit) post := by
  intro state view holds start
  rw [within_raiseIf]
  exact ⟨fun _ => holds, fun passed => ⟨holds, goes state view passed holds start⟩⟩

theorem keeping_runIf {condition : Bool} {program : Program Ask Answer State Error Unit}
    {post : Unit → State → View → Prop}
    (yes : condition = true → Keeping monitor inv pre program post)
    (no : ∀ state view, condition = false → inv state view → pre state view →
      post () state view) :
    Keeping monitor inv pre (program.runIf condition) post := by
  intro state view holds start
  rw [within_runIf]
  exact ⟨fun met => yes met state view holds start,
    fun unmet => ⟨holds, no state view unmet holds start⟩⟩

theorem keeping_weaken {program : Program Ask Answer State Error Value}
    {pre' : State → View → Prop} {post' : Value → State → View → Prop}
    (holds : Keeping monitor inv pre' program post')
    (starts : ∀ state view, inv state view → pre state view → pre' state view)
    (ends : ∀ value state view, inv state view → post' value state view → post value state view) :
    Keeping monitor inv pre program post := by
  intro state view kept start
  refine within_mono (holds state view kept (starts state view kept start)) ?_ ?_
  · intro value state view reached
    exact ⟨reached.1, ends value state view reached.1 reached.2⟩
  · intro what state view reached
    exact reached

/-! Programs that keep an invariant, whether they return or throw. -/

abbrev Preserving (monitor : Monitor Ask Answer View) (inv : State → View → Prop)
    (program : Program Ask Answer State Error Value) : Prop :=
  Keeping monitor inv (fun _ _ => True) program (fun _ _ _ => True)

theorem preserving_bind {program : Program Ask Answer State Error Other}
    {next : Other → Program Ask Answer State Error Value} (first : Preserving monitor inv program)
    (second : ∀ value, Preserving monitor inv (next value)) :
    Preserving monitor inv (program >>= next) :=
  keeping_bind (fun _ _ _ => True) first second

theorem preserving_pure (value : Value) :
    Preserving monitor inv (pure value : Program Ask Answer State Error Value) :=
  keeping_pure fun _ _ _ _ => trivial

theorem preserving_raise (what : Error) :
    Preserving monitor inv (raise what : Program Ask Answer State Error Value) :=
  keeping_raise

theorem preserving_raiseIf (condition : Bool) (what : Error) :
    Preserving monitor inv (raiseIf condition what : Program Ask Answer State Error Unit) :=
  keeping_raiseIf fun _ _ _ _ _ => trivial

theorem preserving_runIf {condition : Bool} {program : Program Ask Answer State Error Unit}
    (runs : condition = true → Preserving monitor inv program) :
    Preserving monitor inv (program.runIf condition) :=
  keeping_runIf runs fun _ _ _ _ _ => trivial

theorem preserving_ite {condition : Prop} [Decidable condition]
    {program other : Program Ask Answer State Error Value}
    (yes : condition → Preserving monitor inv program)
    (no : ¬ condition → Preserving monitor inv other) :
    Preserving monitor inv (if condition then program else other) :=
  keeping_ite yes no

theorem preserving_fetch {next : State → Program Ask Answer State Error Value}
    (goes : ∀ state, Preserving monitor inv (next state)) :
    Preserving monitor inv (fetch >>= next) :=
  fun state view held _ => goes state state view held trivial

theorem preserving_change {update : State → State}
    (kept : ∀ state view, inv state view → inv (update state) view) :
    Preserving monitor inv (change update : Program Ask Answer State Error Unit) :=
  keeping_change fun state view held _ => ⟨kept state view held, trivial⟩

theorem preserving_catching {program : Program Ask Answer State Error Value}
    {handler : Error → Program Ask Answer State Error Value}
    (tries : Preserving monitor inv program)
    (handles : ∀ what, Preserving monitor inv (handler what)) :
    Preserving monitor inv (program.catching handler) := by
  intro state view held _
  rw [within_catching]
  refine within_mono (tries state view held trivial) (fun _ _ _ reached => reached) ?_
  exact fun what left later kept => handles what left later kept trivial

theorem preserving_outcome {program : Program Ask Answer State Error Value}
    (runs : Preserving monitor inv program) : Preserving monitor inv program.outcome := by
  intro state view held _
  rw [within_outcome]
  exact within_mono (runs state view held trivial) (fun _ _ _ reached => reached)
    fun _ _ _ kept => ⟨kept, trivial⟩

theorem keeping_of_preserving {program : Program Ask Answer State Error Value}
    (runs : Preserving monitor (fun state view => inv state view ∧ pre state view) program) :
    Keeping monitor inv pre program (fun _ => pre) := by
  intro state view held start
  exact within_mono (runs state view ⟨held, start⟩ trivial) (fun _ _ _ reached => reached.1)
    fun _ _ _ kept => kept.1

end Rules
end Program
end Ioniq5Ecan.Library
