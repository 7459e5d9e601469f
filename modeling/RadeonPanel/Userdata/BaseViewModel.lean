import RadeonPanel.Userdata.Parsing

set_option autoImplicit false

namespace RadeonPanel.Userdata

-- What the user sees, and what was last applied.
structure BaseUserdataViewModel (source : Source) where
  userdata : source.UserdataType
  cachedUserdata : source.UserdataType

-- What an operation leaves, with the texts it has passed to the apply function.
structure Applied (source : Source) where
  viewModel : BaseUserdataViewModel source
  texts : List Text

namespace BaseUserdataViewModel
variable {source : Source} (printJson : JsonValue → Text) (parseJson : Text → Option JsonValue) (defaultOutputPath : String)
  (vm : BaseUserdataViewModel source)

def apply (userdata : source.UserdataType) : List Text :=
  match serialize source printJson userdata with
  | .ok text => [text]
  | .error _ => []

def performUpdate (action : source.UserdataType → source.UserdataType → source.UserdataType) : Applied source :=
  let userdata := action vm.userdata vm.cachedUserdata
  if source.equals userdata vm.cachedUserdata then ⟨⟨userdata, vm.cachedUserdata⟩, []⟩
  else ⟨⟨userdata, userdata⟩, apply printJson userdata⟩

def initializeDefaultsAndApply (initializeDefaults : source.UserdataType → source.UserdataType) : Applied source :=
  vm.performUpdate printJson fun userdata _ => initializeDefaults userdata

-- The mapper gets the byte that ends the string too.
def loadSerializedData (validateData initializeDefaults : source.UserdataType → source.UserdataType) (serializedData : Text) :
    Bool × Applied source :=
  match parse source parseJson (some (serializedData ++ [0])) defaultOutputPath vm.cachedUserdata with
  | (.ok (), unvalidated) =>
      let validated := validateData unvalidated
      (true, ⟨⟨validated, validated⟩, if source.equals unvalidated validated then [] else apply printJson validated⟩)
  | (.error _, cached) => (false, initializeDefaultsAndApply printJson ⟨vm.userdata, cached⟩ initializeDefaults)

theorem apply_text (userdata : source.UserdataType) :
    apply printJson userdata = [printJson (document source userdata)] := by rw [apply, serialize_text]

theorem update_changed {action : source.UserdataType → source.UserdataType → source.UserdataType} {userdata : source.UserdataType}
    (made : action vm.userdata vm.cachedUserdata = userdata) (changed : source.equals userdata vm.cachedUserdata = false) :
    vm.performUpdate printJson action = ⟨⟨userdata, userdata⟩, [printJson (document source userdata)]⟩ := by
  simp only [performUpdate, made, changed, apply_text]
  rfl

theorem update_unchanged {action : source.UserdataType → source.UserdataType → source.UserdataType} {userdata : source.UserdataType}
    (made : action vm.userdata vm.cachedUserdata = userdata) (same : source.equals userdata vm.cachedUserdata = true) :
    vm.performUpdate printJson action = ⟨⟨userdata, vm.cachedUserdata⟩, []⟩ := by
  simp only [performUpdate, made, same]
  rfl

-- Either way the two copies agree afterwards.
theorem update_spec (action : source.UserdataType → source.UserdataType → source.UserdataType) :
    (vm.performUpdate printJson action).viewModel.userdata = action vm.userdata vm.cachedUserdata ∧
      source.equals (vm.performUpdate printJson action).viewModel.userdata
        (vm.performUpdate printJson action).viewModel.cachedUserdata = true := by
  cases same : source.equals (action vm.userdata vm.cachedUserdata) vm.cachedUserdata with
  | true =>
      rw [update_unchanged printJson vm rfl same]
      exact ⟨rfl, same⟩
  | false =>
      rw [update_changed printJson vm rfl same]
      exact ⟨rfl, equals_self source _⟩

theorem load_parsed (validateData initializeDefaults : source.UserdataType → source.UserdataType) {serializedData : Text}
    {unvalidated validated : source.UserdataType} (validates : validateData unvalidated = validated)
    (parsed : parse source parseJson (some (serializedData ++ [0])) defaultOutputPath vm.cachedUserdata = (.ok (), unvalidated)) :
    vm.loadSerializedData printJson parseJson defaultOutputPath validateData initializeDefaults serializedData =
      (true, ⟨⟨validated, validated⟩, if source.equals unvalidated validated then [] else [printJson (document source validated)]⟩) := by
  simp only [loadSerializedData, parsed, validates, apply_text]

end BaseUserdataViewModel

end RadeonPanel.Userdata
