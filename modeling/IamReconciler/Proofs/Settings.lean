import IamReconciler.Proofs.Text.Counts
import IamReconciler.Proofs.Text.Trimming
import IamReconciler.Settings

/-!
# Settings of an environment

An environment gives settings exactly when both of its intervals are usable: each variable is
silent, or gives a count that is not zero.  Otherwise the error names the first interval that is
not, and what it says of the text tells which of three faults was met first
(`ofEnvironment_usable`).
-/

namespace IamReconciler.Settings

/-! ## Variables -/

/-- A variable is silent when it is unset or has nothing but white space. -/
def Silent (env : Environment) (variableName : String) : Prop :=
  ∀ value, env variableName = some value → ∀ c ∈ value.toList, Text.isBlankChar c = true

/-- A variable gives what is left of its value without the white space at both ends, if anything is
left. -/
def Gives (env : Environment) (variableName text : String) : Prop :=
  text ≠ "" ∧ ∃ value, env variableName = some value ∧ Text.Trims value text

/-- A variable chooses a text: the one that it gives, or the default when it is silent. -/
def ChoosesText (env : Environment) (variableName default text : String) : Prop :=
  Silent env variableName ∧ text = default ∨ Gives env variableName text

/-- A variable gives an interval when it gives a text that denotes at least one second and no more
than the largest count. -/
def GivesInterval (env : Environment) (variableName : String) (seconds : Nat) : Prop :=
  ∃ text, Gives env variableName text ∧ Text.Denotes text seconds ∧ 1 ≤ seconds ∧
    seconds ≤ Text.maxCount

/-- A variable chooses an interval: the one that it gives, or the default when it is silent. -/
def ChoosesInterval (env : Environment) (variableName : String) (default seconds : Nat) : Prop :=
  Silent env variableName ∧ seconds = default ∨ GivesInterval env variableName seconds

/-- A variable is usable for an interval when it is silent or gives one. -/
def Usable (env : Environment) (variableName : String) : Prop :=
  Silent env variableName ∨ ∃ seconds, GivesInterval env variableName seconds

variable {env : Environment} {variableName text : String} {default seconds : Nat} {e : Error}

/-- A variable is silent when trimming leaves nothing of it. -/
lemma trimmed?_eq_none_iff : trimmed? env variableName = none ↔ Silent env variableName := by
  simp only [trimmed?, Silent, Option.bind_eq_none_iff, Text.nonBlank?_eq_none_iff]

/-- A variable gives what trimming leaves of it. -/
lemma trimmed?_eq_some_iff :
    trimmed? env variableName = some text ↔ Gives env variableName text := by
  simp only [trimmed?, Gives, Option.bind_eq_some_iff, Text.nonBlank?_eq_some_iff]
  constructor
  · rintro ⟨value, hValue, hSome, hTrims⟩
    exact ⟨hSome, value, hValue, hTrims⟩
  · rintro ⟨hSome, value, hValue, hTrims⟩
    exact ⟨value, hValue, hSome, hTrims⟩

/-- A text that a variable gives is not blank. -/
lemma Gives.not_blank (h : Gives env variableName text) : Text.isBlank text = false := by
  obtain ⟨hSome, value, -, hTrims⟩ := h
  exact hTrims.not_blank hSome

/-- A text setting is what its variable chooses. -/
lemma choosesText_getD (env : Environment) (variableName default : String) :
    ChoosesText env variableName default ((trimmed? env variableName).getD default) := by
  cases hGiven : trimmed? env variableName with
  | none => exact .inl ⟨trimmed?_eq_none_iff.1 hGiven, rfl⟩
  | some text => exact .inr (trimmed?_eq_some_iff.1 hGiven)

/-- A text that a variable chooses is not blank unless the default is. -/
lemma ChoosesText.not_blank {default : String} (h : ChoosesText env variableName default text)
    (hDefault : Text.isBlank default = false) : Text.isBlank text = false := by
  obtain ⟨-, rfl⟩ | hGiven := h
  · exact hDefault
  · exact hGiven.not_blank

/-! ## Intervals -/

/-- What can be wrong with a text that is given for an interval. -/
inductive IntervalFault where
  /-- It denotes zero. -/
  | zero
  /-- What comes first that does not belong to a count is no digit. -/
  | notADigit
  /-- The value exceeds the largest count before anything else is met. -/
  | tooLarge
  deriving DecidableEq

/-- What is said of a text with a fault. -/
def IntervalFault.message (fault : IntervalFault) (text : String) : String :=
  match fault with
  | .zero => "must be greater than zero"
  | .notADigit => "invalid seconds '" ++ text ++ "': " ++ "invalid digit found in string"
  | .tooLarge => "invalid seconds '" ++ text ++ "': " ++ "number too large to fit in target type"

/-- A text has a fault. -/
def IntervalFault.Marks (fault : IntervalFault) (text : String) : Prop :=
  match fault with
  | .zero => Text.Denotes text 0
  | .notADigit => Text.Strays text
  | .tooLarge => Text.Exceeds text

/-- The last character of what is said of a text. -/
def IntervalFault.ending : IntervalFault → Char
  | .zero => 'o'
  | .notADigit => 'g'
  | .tooLarge => 'e'

lemma IntervalFault.getLast?_message (fault : IntervalFault) (text : String) :
    (fault.message text).toList.getLast? = some fault.ending := by
  cases fault with
  | zero =>
    change "must be greater than zero".toList.getLast? = some 'o'
    decide
  | notADigit =>
    change ("invalid seconds '" ++ text ++ "': " ++
      "invalid digit found in string").toList.getLast? = some 'g'
    rw [String.toList_append, List.getLast?_append]
    rfl
  | tooLarge =>
    change ("invalid seconds '" ++ text ++ "': " ++
      "number too large to fit in target type").toList.getLast? = some 'e'
    rw [String.toList_append, List.getLast?_append]
    rfl

/-- What is said tells the faults apart, whatever the texts are. -/
lemma IntervalFault.message_inj {fault other : IntervalFault} {otherText : String}
    (h : fault.message text = other.message otherText) : fault = other := by
  have hEndings : fault.ending = other.ending := by
    rw [← Option.some.injEq, ← getLast?_message fault text, h, getLast?_message]
  cases fault <;> cases other <;> first
    | rfl
    | exact absurd hEndings (by decide)

/-- What reading gives of a text with a fault. -/
def IntervalFault.reading : IntervalFault → Except Text.CountFault Nat
  | .zero => .ok 0
  | .notADigit => .error .notADigit
  | .tooLarge => .error .tooLarge

/-- Reading a text shows its fault. -/
lemma IntervalFault.marks_iff (hSome : text ≠ "") (fault : IntervalFault) :
    fault.Marks text ↔ Text.readCount text = fault.reading := by
  cases fault with
  | zero =>
    rw [reading, Text.readCount_eq_ok_iff, Marks]
    exact (and_iff_left (Nat.zero_le Text.maxCount)).symm
  | notADigit => exact (Text.readCount_eq_notADigit_iff hSome).symm
  | tooLarge => exact (Text.readCount_eq_tooLarge_iff hSome).symm

/-- A text has no two faults. -/
lemma IntervalFault.marks_unique (hSome : text ≠ "") {fault other : IntervalFault}
    (h : fault.Marks text) (hOther : other.Marks text) : fault = other := by
  have hSame : fault.reading = other.reading :=
    ((marks_iff hSome fault).1 h).symm.trans ((marks_iff hSome other).1 hOther)
  cases fault <;> cases other <;> first
    | rfl
    | cases hSame

/-- An interval is what its variable chooses. -/
lemma interval_eq_ok_iff :
    interval env variableName default = .ok seconds ↔
      ChoosesInterval env variableName default seconds := by
  unfold interval ChoosesInterval GivesInterval
  simp only [← trimmed?_eq_none_iff, ← trimmed?_eq_some_iff]
  cases trimmed? env variableName with
  | none => simp [eq_comm]
  | some text =>
    have hText : Text.Denotes text seconds ∧ 1 ≤ seconds ∧ seconds ≤ Text.maxCount ↔
        Text.readCount text = .ok seconds ∧ 1 ≤ seconds := by
      rw [Text.readCount_eq_ok_iff, and_right_comm, and_assoc]
    simp only [reduceCtorEq, false_and, Option.some.injEq, exists_eq_left', false_or, hText]
    cases hRead : Text.readCount text with
    | error fault => simp only [reduceCtorEq, false_and]
    | ok read =>
      cases read with
      | zero =>
        simp only [reduceCtorEq, Except.ok.injEq, false_iff, not_and]
        rintro rfl
        exact Nat.not_succ_le_zero 0
      | succ read =>
        simp only [Except.ok.injEq]
        exact ⟨fun hSeconds => ⟨hSeconds, hSeconds ▸ Nat.succ_pos read⟩, And.left⟩

/-- An interval is refused for the fault of the text that its variable gives. -/
lemma interval_eq_error_iff :
    interval env variableName default = .error e ↔
      ∃ text fault, Gives env variableName text ∧ IntervalFault.Marks fault text ∧
      e = .validation variableName (fault.message text) := by
  constructor
  · intro hError
    unfold interval at hError
    cases hGiven : trimmed? env variableName with
    | none =>
      rw [hGiven] at hError
      cases hError
    | some text =>
      have hGives : Gives env variableName text := trimmed?_eq_some_iff.1 hGiven
      rw [hGiven] at hError
      dsimp only at hError
      cases hRead : Text.readCount text with
      | error fault =>
        rw [hRead] at hError
        obtain rfl := Except.error.inj hError
        cases fault with
        | empty => exact absurd hRead (Text.readCount_ne_empty hGives.1)
        | notADigit =>
            exact ⟨text, .notADigit, hGives, (IntervalFault.marks_iff hGives.1 _).2 hRead, rfl⟩
        | tooLarge =>
            exact ⟨text, .tooLarge, hGives, (IntervalFault.marks_iff hGives.1 _).2 hRead, rfl⟩
      | ok read =>
        rw [hRead] at hError
        -- a number that is read is refused for being zero alone
        cases read with
        | zero =>
          obtain rfl := Except.error.inj hError
          exact ⟨text, .zero, hGives, (IntervalFault.marks_iff hGives.1 _).2 hRead, rfl⟩
        | succ read => cases hError
  · rintro ⟨text, fault, hGives, hMarks, rfl⟩
    have hRead := (IntervalFault.marks_iff hGives.1 fault).1 hMarks
    unfold interval
    rw [trimmed?_eq_some_iff.2 hGives]
    dsimp only
    rw [hRead]
    cases fault <;> rfl

/-- A variable is usable for an interval when it chooses one. -/
lemma usable_iff (default : Nat) :
    Usable env variableName ↔ ∃ seconds, interval env variableName default = .ok seconds := by
  simp only [interval_eq_ok_iff]
  constructor
  · rintro (hSilent | ⟨seconds, hGiven⟩)
    · exact ⟨default, .inl ⟨hSilent, rfl⟩⟩
    · exact ⟨seconds, .inr hGiven⟩
  · rintro ⟨seconds, ⟨hSilent, -⟩ | hGiven⟩
    · exact .inl hSilent
    · exact .inr ⟨seconds, hGiven⟩

/-- A variable whose interval is refused is not usable. -/
lemma not_usable_of_error (h : interval env variableName default = .error e) :
    ¬Usable env variableName := by
  rw [usable_iff default, h]
  rintro ⟨seconds, hSeconds⟩
  cases hSeconds

/-- A chosen interval is not zero unless the default is. -/
lemma ChoosesInterval.pos (h : ChoosesInterval env variableName default seconds)
    (hDefault : 0 < default) : 0 < seconds := by
  obtain ⟨-, rfl⟩ | ⟨text, -, -, hPositive, -⟩ := h
  · exact hDefault
  · exact hPositive

/-! ## Settings -/

/-- Settings follow from an environment when each of them is what its variable chooses; then no
interval is zero, and no text is blank. -/
structure FollowsFrom (s : Settings) (env : Environment) : Prop where
  syncPeriod : ChoosesInterval env syncPeriodVariable ({} : Settings).syncPeriod s.syncPeriod
  errorRequeue :
    ChoosesInterval env errorRequeueVariable ({} : Settings).errorRequeue s.errorRequeue
  controllerNamespace :
    ChoosesText env controllerNamespaceVariable ({} : Settings).controllerNamespace
      s.controllerNamespace
  fieldManager : ChoosesText env fieldManagerVariable ({} : Settings).fieldManager s.fieldManager
  syncPeriod_pos : 0 < s.syncPeriod
  errorRequeue_pos : 0 < s.errorRequeue
  controllerNamespace_not_blank : Text.isBlank s.controllerNamespace = false
  fieldManager_not_blank : Text.isBlank s.fieldManager = false

/-- The variable of the first interval that is not usable. -/
def AtFault (env : Environment) (variableName : String) : Prop :=
  variableName = syncPeriodVariable ∧ ¬Usable env syncPeriodVariable ∨
    variableName = errorRequeueVariable ∧ Usable env syncPeriodVariable ∧
    ¬Usable env errorRequeueVariable

/-- An error reports an environment when it names the first interval that is not usable and says
which fault the text has that is given for it, which is the only one. -/
def Reports (e : Error) (env : Environment) : Prop :=
  ∃ variableName text fault, AtFault env variableName ∧ Gives env variableName text ∧
    (∀ other, IntervalFault.Marks other text ↔ other = fault) ∧ e = .validation variableName
      (fault.message text)

/-- Settings are made of two intervals and two texts. -/
lemma ofEnvironment_of_intervals {syncPeriod errorRequeue : Nat}
    (hSync : interval env syncPeriodVariable ({} : Settings).syncPeriod = .ok syncPeriod)
    (hError : interval env errorRequeueVariable ({} : Settings).errorRequeue = .ok errorRequeue) :
    ∃ s, ofEnvironment env = .ok s ∧ s.FollowsFrom env := by
  refine ⟨_, by rw [ofEnvironment, hSync, hError]; rfl, ?_⟩
  have hSyncChosen := interval_eq_ok_iff.1 hSync
  have hErrorChosen := interval_eq_ok_iff.1 hError
  have hNamespace := choosesText_getD env controllerNamespaceVariable
    ({} : Settings).controllerNamespace
  have hManager := choosesText_getD env fieldManagerVariable ({} : Settings).fieldManager
  constructor
  case syncPeriod => exact hSyncChosen
  case errorRequeue => exact hErrorChosen
  case controllerNamespace => exact hNamespace
  case fieldManager => exact hManager
  case syncPeriod_pos => exact hSyncChosen.pos (by decide)
  case errorRequeue_pos => exact hErrorChosen.pos (by decide)
  case controllerNamespace_not_blank => exact hNamespace.not_blank (by decide)
  case fieldManager_not_blank => exact hManager.not_blank (by decide)

/-- The error of a refused interval reports the environment when the variable is the first one at
fault. -/
lemma reports_of_interval (hFault : AtFault env variableName)
    (h : interval env variableName default = .error e) : Reports e env := by
  obtain ⟨text, fault, hGives, hMarks, rfl⟩ := interval_eq_error_iff.1 h
  refine ⟨variableName, text, fault, hFault, hGives, fun other => ⟨fun hOther => ?_, ?_⟩, rfl⟩
  · exact IntervalFault.marks_unique hGives.1 hOther hMarks
  · rintro rfl
    exact hMarks

/-- An environment gives settings that follow from it when both intervals are usable, and otherwise
an error that reports it. -/
lemma ofEnvironment_cases (env : Environment) :
    (Usable env syncPeriodVariable ∧ Usable env errorRequeueVariable ∧
        ∃ s, ofEnvironment env = .ok s ∧ s.FollowsFrom env) ∨
      ∃ e, ofEnvironment env = .error e ∧ Reports e env := by
  cases hSync : interval env syncPeriodVariable ({} : Settings).syncPeriod with
  | error e =>
    refine .inr ⟨e, by rw [ofEnvironment, hSync]; rfl, ?_⟩
    exact reports_of_interval (.inl ⟨rfl, not_usable_of_error hSync⟩) hSync
  | ok syncPeriod =>
    have hSyncUsable : Usable env syncPeriodVariable := (usable_iff _).2 ⟨syncPeriod, hSync⟩
    cases hError : interval env errorRequeueVariable ({} : Settings).errorRequeue with
    | error e =>
      refine .inr ⟨e, by rw [ofEnvironment, hSync, hError]; rfl, ?_⟩
      exact reports_of_interval (.inr ⟨rfl, hSyncUsable, not_usable_of_error hError⟩) hError
    | ok errorRequeue =>
      exact .inl ⟨hSyncUsable, (usable_iff _).2 ⟨errorRequeue, hError⟩,
        ofEnvironment_of_intervals hSync hError⟩

/-- **Settings are given for usable intervals only.**  An environment gives settings exactly when
both interval variables are usable, and then each interval is the count that its variable gives or
the default and never zero, and each text is the trimmed variable or the default and never blank.
Otherwise the error names the sync period's variable if that is not usable, else the other one, and
says of the text which of three faults was met first; what is said tells the three apart. -/
theorem ofEnvironment_usable (env : Environment) :
    ((∃ s, ofEnvironment env = .ok s) ↔
        Usable env syncPeriodVariable ∧ Usable env errorRequeueVariable) ∧
      (∀ s, ofEnvironment env = .ok s → s.FollowsFrom env) ∧
      (∀ e, ofEnvironment env = .error e → Reports e env) ∧
      ∀ (fault other : IntervalFault) (text otherText : String),
        fault.message text = other.message otherText → fault = other := by
  have hApart : ∀ (fault other : IntervalFault) (text otherText : String),
      fault.message text = other.message otherText → fault = other :=
    fun _ _ _ _ => IntervalFault.message_inj
  obtain ⟨hSync, hError, s, hOk, hFollows⟩ | ⟨e, hRefused, hReports⟩ := ofEnvironment_cases env
  · refine ⟨⟨fun _ => ⟨hSync, hError⟩, fun _ => ⟨s, hOk⟩⟩, fun t hSettings =>
      ?_, fun e hRefused => ?_, hApart⟩
    · obtain rfl := Except.ok.inj (hOk.symm.trans hSettings)
      exact hFollows
    · cases hOk.symm.trans hRefused
  · refine ⟨⟨fun ⟨s, hOk⟩ => ?_, fun ⟨hSync, hError⟩ => ?_⟩, fun s hOk =>
      ?_, fun f hError => ?_, hApart⟩
    · cases hOk.symm.trans hRefused
    · obtain ⟨variableName, _, _, ⟨-, hUnusable⟩ | ⟨-, -, hUnusable⟩, -⟩ := hReports
      · exact absurd hSync hUnusable
      · exact absurd hError hUnusable
    · cases hOk.symm.trans hRefused
    · obtain rfl := Except.error.inj (hRefused.symm.trans hError)
      exact hReports

/-- A count just above the largest one, with a sign and a zero in front and a letter behind, is
reported as too large, for the letter is not reached. -/
theorem ofEnvironment_usable_of_overflow :
    let env : Environment := fun variableName =>
      if variableName = errorRequeueVariable then some "\t+018446744073709551616s " else none
    ofEnvironment env = .error (.validation errorRequeueVariable
        "invalid seconds '+018446744073709551616s': number too large to fit in target type") ∧
      Usable env syncPeriodVariable ∧ ¬Usable env errorRequeueVariable ∧
      Text.Exceeds "+018446744073709551616s" := by
  intro env
  have hError : ofEnvironment env = .error (.validation errorRequeueVariable
      (IntervalFault.message .tooLarge "+018446744073709551616s")) := rfl
  obtain ⟨-, -, hReports, hApart⟩ := ofEnvironment_usable env
  obtain ⟨variableName, text, fault, hAtFault, hGives, hOnly, hSaid⟩ := hReports _ hError
  obtain ⟨rfl, hMessage⟩ := Error.validation.inj hSaid
  obtain rfl := hApart _ _ _ _ hMessage
  have hText : some "+018446744073709551616s" = some text := trimmed?_eq_some_iff.2 hGives
  obtain rfl := Option.some.inj hText
  obtain ⟨hName, -⟩ | ⟨-, hSync, hUnusable⟩ := hAtFault
  · exact absurd hName (by decide)
  · exact ⟨hError, hSync, hUnusable, (hOnly .tooLarge).2 rfl⟩

end IamReconciler.Settings
