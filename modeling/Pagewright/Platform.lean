/-
# Target platforms

The closed set of runtimes that a project can be generated for, and the family
that decides units, colours and the project manifest:

| id | name | family |
| --- | --- | --- |
| `weapp` | WeChat mini program | mini program |
| `alipay` | Alipay mini program | mini program |
| `h5` | H5 (browser) | browser |
| `rn` | React Native | native |
| `tt` | ByteDance mini program | mini program |
| `qq` | QQ mini program | mini program |

A platform is *named* in two ways: exactly by its id in files, and by its id or
an alias in any letter case on the command line.
-/

import Pagewright.Text.Case

namespace Pagewright

/-- A runtime that a project is generated for. -/
inductive Platform where
  | weapp
  | alipay
  | h5
  | rn
  | tt
  | qq
deriving DecidableEq, Inhabited, Repr

/-- The broad kind of a runtime. -/
inductive Family where
  | miniProgram
  | browser
  | native
deriving DecidableEq, Inhabited, Repr

namespace Platform

/-- Every platform, in canonical order. -/
def all : List Platform := [.weapp, .alipay, .h5, .rn, .tt, .qq]

/-- The platforms of the mini-program family, in canonical order. -/
def miniPrograms : List Platform := [.weapp, .alipay, .tt, .qq]

/-- The identifier of a platform. -/
def id : Platform → String
  | .weapp => "weapp"
  | .alipay => "alipay"
  | .h5 => "h5"
  | .rn => "rn"
  | .tt => "tt"
  | .qq => "qq"

/-- The name of a platform in reports. -/
def displayName : Platform → String
  | .weapp => "WeChat mini program"
  | .alipay => "Alipay mini program"
  | .h5 => "H5 (browser)"
  | .rn => "React Native"
  | .tt => "ByteDance mini program"
  | .qq => "QQ mini program"

/-- The family of a platform. -/
def family : Platform → Family
  | .weapp | .alipay | .tt | .qq => .miniProgram
  | .h5 => .browser
  | .rn => .native

/-- Whether a platform is a mini program. -/
def isMiniProgram (p : Platform) : Bool := p.family == .miniProgram

/-- The platform with an identifier. -/
def ofId? (s : String) : Option Platform := all.find? (·.id == s)

/-- A name that stands for no platform. -/
structure Unknown where
  name : String
deriving DecidableEq

/-- The message for an unknown platform. -/
def Unknown.message (u : Unknown) : String :=
  "unknown platform '" ++ u.name ++ "', expected one of: weapp, alipay, h5, rn, tt, qq"

/-- The platform that a name stands for, in any letter case. -/
def ofName (s : String) : Except Unknown Platform :=
  match Text.lowercase s with
  | "weapp" | "wechat" => .ok .weapp
  | "alipay" => .ok .alipay
  | "h5" | "web" => .ok .h5
  | "rn" | "react-native" => .ok .rn
  | "tt" | "bytedance" => .ok .tt
  | "qq" => .ok .qq
  | _ => .error ⟨s⟩

/-- The list of the platforms has every platform. -/
@[simp] theorem mem_all (p : Platform) : p ∈ all := by cases p <;> decide

/-- **Identifiers name platforms:** reading an id gives its platform back. -/
@[simp] theorem ofId?_id (p : Platform) : ofId? p.id = some p := by cases p <;> decide

end Platform
end Pagewright
