import Uiml.Color
import Uiml.Geometry
import Uiml.Number.Digits
import Uiml.Table
import Uiml.Text.Trim

/-!
# Configurations

The settings of a session and the look of elements that set no colours of their own. Every setting
has a default, and some must lie in a range.

## Main definitions

* `Theme`, `Config` — looks and settings
* `Config.validate` — refuses settings that are out of range
-/

namespace Uiml

/-- The look of elements that do not set their own. -/
structure Theme where
  textColor : Color := .white
  fontSize : Float32 := 14
  panel : Color := ⟨0.2, 0.2, 0.2, 0.8⟩
  button : Color := .white
  buttonText : Color := .black
  checkbox : Color := .white
  checkmark : Color := ⟨0.2, 0.6, 0.9, 1⟩
  inputField : Color := ⟨0.17, 0.24, 0.31, 1⟩
  dropdown : Color := ⟨0.17, 0.24, 0.31, 1⟩
  scrollBackground : Color := ⟨0.1, 0.1, 0.1, 0.8⟩
  progressBackground : Color := ⟨0.2, 0.3, 0.4, 1⟩
  progressFill : Color := ⟨0.2, 0.6, 0.9, 1⟩
  deriving DecidableEq, Inhabited

/-- The settings of a session. -/
structure Config where
  /-- The tag that a document's root must have, in any case of its letters. -/
  rootTag : String := "UIML"
  /-- Whether loading a document first clears what is there. -/
  clearOnLoad : Bool := true
  /-- Whether attributes that cannot be read are warned about. -/
  strictAttributes : Bool := false
  slotCount : Nat := 64
  /-- The seconds that a command takes which may do without saying so. -/
  defaultDuration : Float32 := 2
  /-- How far a bounce goes. -/
  bounceScale : Float32 := 1.2
  /-- How far elements slide to be off the screen. -/
  screenSize : Vec2 := ⟨1920, 1080⟩
  /-- The directory of logical resources. -/
  resourceRoot : String := "resources"
  /-- Where managed addresses lead: a URL, or a logical resource. -/
  addressables : Table String String := {}
  /-- The seconds that a remote request may take. -/
  httpTimeoutSeconds : Nat := 10
  theme : Theme := {}
  deriving Inhabited

namespace Config

/-- Why settings are refused. -/
inductive Fault where
  | emptyRootTag
  | defaultDuration (got : Float32)
  | bounceScale (got : Float32)
  | screenSize
  deriving DecidableEq

/-- The wording of a fault. -/
def Fault.message : Fault → String
  | .emptyRootTag => "invalid config: root_tag must not be empty"
  | .defaultDuration got =>
    s!"invalid config: default_duration must be a non-negative number, got {Single.text got}"
  | .bounceScale got => s!"invalid config: bounce_scale must be positive, got {Single.text got}"
  | .screenSize => "invalid config: screen_size entries must be positive"

/-- Whether a number is finite and above zero. -/
def isPositive (x : Float32) : Bool := x.isFinite && 0 < x

/-- Refuses settings that are out of range; the first fault in the order of the settings is
reported. -/
def validate (config : Config) : Except Fault Unit :=
  if Text.isBlankText config.rootTag then .error .emptyRootTag
  else if !config.defaultDuration.isFinite || config.defaultDuration < 0 then
    .error (.defaultDuration config.defaultDuration)
  else if !isPositive config.bounceScale then .error (.bounceScale config.bounceScale)
  else if !isPositive config.screenSize.x || !isPositive config.screenSize.y then
    .error .screenSize
  else .ok ()

end Config

end Uiml
