/-!
# Names of the form API

The identifiers of the legacy form API and of its successor. `Form.create()(Component)` injects a
prop `form`, and `getFieldDecorator` binds a field; `Form.useForm()` takes their place.
-/

namespace FormCodemod

/-- The identifiers that the rules look for and write. -/
structure Config where
  /-- The object that owns both the legacy factory and the new hook. -/
  owner : String := "Form"
  /-- The legacy factory, a method of the owner. -/
  factory : String := "create"
  /-- The hook that replaces the factory. -/
  hook : String := "useForm"
  /-- The prop that the factory injects. -/
  formProp : String := "form"
  /-- The legacy function that decorates a field. -/
  decorator : String := "getFieldDecorator"
  deriving DecidableEq, Repr, Inhabited

end FormCodemod
