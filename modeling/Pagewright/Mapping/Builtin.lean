/-
# Built-in mappings

The component types that are known without a declaration. All tags come from one
module, but the rule of a divider in the browser.

| type | platforms |
| --- | --- |
| `Container` | all |
| `Text` | all; `content` wins over `value` |
| `Button` | all; the click handler is `onClick`, `onTap` or `onPress` |
| `Input` | all |
| `Image` | all |
| `Divider` | all; `hr` in the browser |
| `ScrollView` | all |
| `Swiper` | all but `rn` |
-/

import Pagewright.Mapping.Rule

namespace Pagewright
namespace Mapping
namespace Builtin

/-- The module of the component set. -/
def componentModule : String := "@tarojs/components"

/-- A rule for a tag of the component set. -/
def component (tag : String) : Rule := .imported tag componentModule

/-- The variant of a button as its type. -/
def variantToType : PropMapping :=
  (PropMapping.rename "variant" "type").withTransform
    (.chooseText "contained" "primary" "default")

/-- A plain node. -/
def container : Mapping := (Mapping.ofType "Container").withAll (component "View")

/-- Text, from either of two props. -/
def text : Mapping :=
  (Mapping.ofType "Text").withAll ((component "Text").withProps [
    .rename "value" "children",
    .rename "content" "children"])

/-- The rule of a button whose click handler is called `target`. -/
def buttonWithClick (target : String) : Rule :=
  (component "Button").withProps [
    variantToType,
    .keep "disabled",
    .rename "onClick" target]

/-- A button. -/
def button : Mapping :=
  (Mapping.ofType "Button")
    |>.withRule .weapp (buttonWithClick "onClick")
    |>.withRule .alipay (buttonWithClick "onTap")
    |>.withRule .h5 ((component "Button").withProps [
      (PropMapping.rename "variant" "className").withTransform (.template "btn-\x7b\x7d"),
      .keep "disabled",
      .keep "onClick"])
    |>.withRule .rn (buttonWithClick "onPress")
    |>.withRule .tt (component "Button")
    |>.withRule .qq (component "Button")

/-- A field of text. -/
def input : Mapping :=
  (Mapping.ofType "Input")
    |>.withEach [.weapp, .alipay, .h5] ((component "Input").withProps [
      .keep "value",
      .keep "placeholder",
      .rename "onChange" "onInput",
      .keep "disabled"])
    |>.withRule .rn ((component "Input").withProps [
      .keep "value",
      .keep "placeholder",
      .rename "onChange" "onChangeText",
      (PropMapping.rename "disabled" "editable").withTransform .not])
    |>.withEach [.tt, .qq] (component "Input")

/-- A picture. -/
def image : Mapping :=
  (Mapping.ofType "Image")
    |>.withEach [.weapp, .alipay] ((component "Image").withProps [
      .keep "src",
      .keep "alt",
      .keep "mode"])
    |>.withRule .h5 ((component "Image").withProps [
      .keep "src",
      .keep "alt"])
    |>.withRule .rn ((component "Image").withProps [
      (PropMapping.rename "src" "source").withTransform (.wrap "uri"),
      .rename "mode" "resizeMode"])
    |>.withEach [.tt, .qq] (component "Image")

/-- A line between nodes. -/
def divider : Mapping :=
  (Mapping.ofType "Divider")
    |>.withEach Platform.miniPrograms (component "View")
    |>.withRule .h5 (.intrinsic "hr")
    |>.withRule .rn (component "View")

/-- The rule of a scrolling node everywhere but on `rn`. -/
def scrolling : Rule :=
  (component "ScrollView").withProps [
    .rename "horizontal" "scrollX",
    .rename "onReachEnd" "onScrollToLower"]

/-- A node that scrolls. -/
def scrollView : Mapping :=
  (Mapping.ofType "ScrollView")
    |>.withEach Platform.miniPrograms scrolling
    |>.withRule .h5 scrolling
    |>.withRule .rn ((component "ScrollView").withProps [
      .keep "horizontal",
      .rename "onReachEnd" "onEndReached"])

/-- A row of slides; there is none on `rn`. -/
def swiper : Mapping :=
  (Mapping.ofType "Swiper").withEach [.weapp, .alipay, .h5, .tt, .qq]
    ((component "Swiper").withProps [
      .keep "autoplay",
      .keep "interval",
      .keep "circular",
      .rename "showDots" "indicatorDots"])

/-- The mappings that a registry starts with, in order. -/
def all : List Mapping :=
  [container, text, button, input, image, divider, scrollView, swiper]

end Builtin
end Mapping
end Pagewright
