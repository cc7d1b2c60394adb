import WithdrawalCascade.Text.Quoted

/-!
# Configuration

The one thing that can be set: what a cascade does about a booking in the tree that does not exist.
The setting is a word in any mixture of ASCII cases, with blanks around it or not.
-/

namespace WithdrawalCascade

/-- What a cascade does about a booking that does not exist. -/
inductive MissingBookingPolicy where
  /-- It stops, and its result is that the booking was not found. -/
  | abort
  /-- It reports the booking as not found and goes on. -/
  | skip
  deriving DecidableEq, Repr

/-- A setting with a value outside its set. -/
structure InvalidSetting where
  /-- The name of the setting. -/
  key : String
  /-- The value, as it was set. -/
  value : String
  /-- The values that would be accepted. -/
  expected : String
  deriving DecidableEq, Repr

namespace InvalidSetting

/-- The text of the error. -/
def message (invalid : InvalidSetting) : String :=
  "invalid value " ++ Text.quoted invalid.value ++ " for " ++ invalid.key ++
    ": expected one of " ++ invalid.expected

end InvalidSetting

namespace MissingBookingPolicy

/-- The name of the setting. -/
def settingName : String :=
  "WITHDRAWAL_ON_MISSING_BOOKING"

/-- The word of a policy. -/
def word : MissingBookingPolicy → String
  | abort => "abort"
  | skip => "skip"

/-- Both policies, in the order in which messages list them. -/
def all : List MissingBookingPolicy :=
  [abort, skip]

/-- The policy that a setting means.  `Char.toLower` changes ASCII letters only. -/
def ofSetting (value : String) : Except InvalidSetting MissingBookingPolicy :=
  let folded := (Text.trim value.toList).map Char.toLower
  if folded = abort.word.toList then .ok abort
  else if folded = skip.word.toList then .ok skip
  else .error ⟨settingName, value, String.intercalate ", " (all.map word)⟩

end MissingBookingPolicy

/-- The settings of a cascade. -/
structure Config where
  onMissingBooking : MissingBookingPolicy := .abort
  deriving DecidableEq, Repr

namespace Config

/-- The settings that a look-up by name gives.  What is not set has its default.  The look-up may
have effects, so that what it is asked for can be observed. -/
def fromLookup {m : Type → Type} [Monad m] (lookup : String → m (Option String)) :
    m (Except InvalidSetting Config) := do
  match ← lookup MissingBookingPolicy.settingName with
  | some value => return (MissingBookingPolicy.ofSetting value).map Config.mk
  | none => return .ok {}

/-- The settings of a process in whose `environment` each variable is set to some bytes or to
nothing.  A variable whose bytes are not UTF-8 counts as not set. -/
def fromEnvironment (environment : String → Option ByteArray) : Except InvalidSetting Config :=
  Id.run (fromLookup fun name => pure ((environment name).bind String.fromUTF8?))

end Config
example : MissingBookingPolicy.ofSetting "\u00a0sKiP\n" = .ok .skip := by rfl

example : MissingBookingPolicy.ofSetting "s\u212aip" =
    .error ⟨"WITHDRAWAL_ON_MISSING_BOOKING", "s\u212aip", "abort, skip"⟩ := by rfl

end WithdrawalCascade
