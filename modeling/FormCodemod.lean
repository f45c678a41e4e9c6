import FormCodemod.Config.File
import FormCodemod.Fix.Run
import FormCodemod.Proofs.Text.Place
import FormCodemod.Proofs.Span.Selection
import FormCodemod.Proofs.Edit.Layout
import FormCodemod.Proofs.Edit.Merging
import FormCodemod.Proofs.Fix.Selection
import FormCodemod.Proofs.Fix.Run
import FormCodemod.Proofs.Lint.Visits
import FormCodemod.Proofs.Binding.Components
import FormCodemod.Proofs.Binding.References
import FormCodemod.Proofs.Binding.Wrapping
import FormCodemod.Proofs.Syntax.Spans
import FormCodemod.Proofs.Syntax.Names
import FormCodemod.Proofs.Rule.Edits
import FormCodemod.Proofs.Fix.Settled
import FormCodemod.Proofs.Rule.Composing
import FormCodemod.Proofs.Edit.Moving
import FormCodemod.Proofs.Fix.Rerun
import FormCodemod.Proofs.Fix.Readable
import FormCodemod.Proofs.Fix.Mark
import FormCodemod.Proofs.Fix.Decorator
import FormCodemod.Proofs.Binding.SoleUse
import FormCodemod.Proofs.Edit.Deleting
import FormCodemod.Proofs.Rule.Injected
import FormCodemod.Proofs.Rule.Decorated
import FormCodemod.Proofs.Text.StringValue
import FormCodemod.Proofs.Syntax.StringScan
import FormCodemod.Proofs.Rule.Naming
import FormCodemod.Proofs.Edit.Parts
import FormCodemod.Proofs.Rule.Bindings
import FormCodemod.Proofs.Rule.Dead
import FormCodemod.Proofs.Rule.Rebinding
import FormCodemod.Proofs.Rule.Unwrapped
import FormCodemod.Proofs.Text.NextToken
import FormCodemod.Proofs.Config.RoundTrip
import FormCodemod.Proofs.Rule.Separators
