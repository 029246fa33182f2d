import LayeredConfig.Sample
import LayeredConfig.Value.Toml
import LayeredConfig.Proofs.Source.Merging
import LayeredConfig.Proofs.Source.Alternatives
import LayeredConfig.Proofs.Source.Regrouping
import LayeredConfig.Proofs.Source.Directory
import LayeredConfig.Proofs.Source.Reads
import LayeredConfig.Proofs.Source.Safe
import LayeredConfig.Proofs.Source.Variables
import LayeredConfig.Proofs.Schema.Loader
import LayeredConfig.Proofs.Schema.Coverage
import LayeredConfig.Proofs.Schema.Placement
import LayeredConfig.Proofs.Schema.Literals
import LayeredConfig.Proofs.Provider.Inputs
import LayeredConfig.Proofs.Provider.Mapping
import LayeredConfig.Proofs.Text.Encoding
import LayeredConfig.Proofs.Descriptor.Idempotence
import LayeredConfig.Proofs.Descriptor.FirstFault
import LayeredConfig.Proofs.Descriptor.Casting
import LayeredConfig.Proofs.Expr.RoundTrip
import LayeredConfig.Proofs.Expr.Safety
import LayeredConfig.Proofs.Expr.Overflow
import LayeredConfig.Proofs.Expr.Equality
import LayeredConfig.Proofs.Expr.Extremum
import LayeredConfig.Proofs.Expr.Chain
import LayeredConfig.Proofs.Expr.Limits
import LayeredConfig.Proofs.Expr.Sequence
import LayeredConfig.Proofs.Expr.AllowList
import LayeredConfig.Proofs.Value.Integral
import LayeredConfig.Proofs.Value.IntegerText
import LayeredConfig.Proofs.Value.Yaml
import LayeredConfig.Proofs.Value.Json
