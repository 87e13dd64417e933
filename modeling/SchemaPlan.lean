import SchemaPlan.Manifest.Encode
import SchemaPlan.Session.Request
import SchemaPlan.Session.Scripted
import SchemaPlan.Main
import SchemaPlan.Proofs.PrimaryKey
import SchemaPlan.Proofs.Injection
import SchemaPlan.Proofs.Decoding
import SchemaPlan.Proofs.Execution
import SchemaPlan.Proofs.Requests
import SchemaPlan.Proofs.Application
import SchemaPlan.Proofs.Replay
import SchemaPlan.Proofs.Form
import SchemaPlan.Proofs.RoundTrip
import SchemaPlan.Proofs.UnknownFields
import SchemaPlan.Proofs.Preview
import SchemaPlan.Proofs.Dialects
import SchemaPlan.Proofs.DerivedNames
import SchemaPlan.Proofs.Alteration
import SchemaPlan.Proofs.KeyCoverage
import SchemaPlan.Proofs.AlterationDecoding
import SchemaPlan.Proofs.Faults
import SchemaPlan.Proofs.NameParts
import SchemaPlan.Proofs.LiteralForm
import SchemaPlan.Proofs.IntegerDefaults
import SchemaPlan.Proofs.Expressible
import SchemaPlan.Proofs.AddedColumn
import SchemaPlan.Proofs.Separation
import SchemaPlan.Proofs.ModifierOrder
import SchemaPlan.Proofs.RunLog
import SchemaPlan.Proofs.KeyOrder
import SchemaPlan.Proofs.Quoting
import SchemaPlan.Proofs.DialectNames
import SchemaPlan.Proofs.Concatenation
