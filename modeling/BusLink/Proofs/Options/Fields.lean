import BusLink.Options.Document

set_option autoImplicit false

namespace BusLink.Options.Field

abbrev Value : Field → Type
  | .transport => Transport
  | .retries => UInt32
  | .retryMode => Retry.Mode
  | .waitUnit => Binary64
  | .longestWait => Binary64
  | .encoding => String
  | .userAgent => Option String
  | .customEndpoint => Option String
  | .subscription => Option String

def value : (field : Field) → Options → field.Value
  | .transport, options => options.transport
  | .retries, options => options.retries
  | .retryMode, options => options.retryMode
  | .waitUnit, options => options.waitUnit
  | .longestWait, options => options.longestWait
  | .encoding, options => options.encoding
  | .userAgent, options => options.userAgent
  | .customEndpoint, options => options.customEndpoint
  | .subscription, options => options.subscription

def put : (field : Field) → Options → field.Value → Options
  | .transport, options, given => { options with transport := given }
  | .retries, options, given => { options with retries := given }
  | .retryMode, options, given => { options with retryMode := given }
  | .waitUnit, options, given => { options with waitUnit := given }
  | .longestWait, options, given => { options with longestWait := given }
  | .encoding, options, given => { options with encoding := given }
  | .userAgent, options, given => { options with userAgent := given }
  | .customEndpoint, options, given => { options with customEndpoint := given }
  | .subscription, options, given => { options with subscription := given }

@[simp] theorem value_put (field : Field) (options : Options) (given : field.Value) :
    field.value (field.put options given) = given := by
  cases field <;> rfl

@[simp] theorem put_value (field : Field) (options : Options) :
    field.put options (field.value options) = options := by
  cases field <;> rfl

theorem value_put_of_ne {field other : Field} (different : other ≠ field) (options : Options)
    (given : field.Value) : other.value (field.put options given) = other.value options := by
  cases field <;> cases other <;> first | exact absurd rfl different | rfl

theorem nodup_all : all.Nodup := by
  decide

end BusLink.Options.Field

namespace BusLink.Options

/-- Options are determined by their values. -/
theorem eq_of_values {left right : Options}
    (agree : ∀ field : Field, field.value left = field.value right) : left = right := by
  cases left
  cases right
  rw [Options.mk.injEq]
  exact ⟨agree .transport, agree .retries, agree .retryMode, agree .waitUnit, agree .longestWait,
    agree .encoding, agree .userAgent, agree .customEndpoint, agree .subscription⟩

end BusLink.Options
