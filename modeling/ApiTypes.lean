import ApiTypes.Api.OfJson
import ApiTypes.Command.Run
import ApiTypes.Main
import ApiTypes.Schema.ToJson
import ApiTypes.Proofs.Denotation
import ApiTypes.Proofs.Layout.Generated
import ApiTypes.Proofs.Layout.Stable
import ApiTypes.Proofs.Resolve.Termination
import ApiTypes.Proofs.Resolve.Unfolding
import ApiTypes.Proofs.Blueprint
import ApiTypes.Proofs.Closure
import ApiTypes.Proofs.Exports
import ApiTypes.Proofs.Resolve.ReferenceGraph
import ApiTypes.Proofs.Pointers
import ApiTypes.Proofs.Resolve.Markers
import ApiTypes.Proofs.Ordered
import ApiTypes.Proofs.Collisions
import ApiTypes.Proofs.DefinitionExports
import ApiTypes.Proofs.Inline
import ApiTypes.Proofs.Dialects
import ApiTypes.Proofs.Isolation
import ApiTypes.Proofs.Resolve.Memory
import ApiTypes.Proofs.Url.Fragment
import ApiTypes.Proofs.Resolve.Faults
import ApiTypes.Proofs.Url.Files
import ApiTypes.Proofs.Resolve.Spelling
import ApiTypes.Proofs.Resolve.Worlds
import ApiTypes.Proofs.Layout.Spacing
import ApiTypes.Proofs.Layout.Joined
import ApiTypes.Proofs.LoneBody
import ApiTypes.Proofs.Output
import ApiTypes.Proofs.UntypedValues
import ApiTypes.Proofs.CamelWords
import ApiTypes.Proofs.CommentRule
import ApiTypes.Proofs.PropertyNames
import ApiTypes.Proofs.PointerLookup
import ApiTypes.Proofs.Vocabulary
import ApiTypes.Proofs.Acceptance
import ApiTypes.Proofs.Inheritance
import ApiTypes.Proofs.Layout.Balance
import ApiTypes.Proofs.ResponseSelection
import ApiTypes.Proofs.Sink
import ApiTypes.Proofs.Decimal.Shortest
import ApiTypes.Proofs.Decimal.Written
import ApiTypes.Proofs.LiteralUnion
import ApiTypes.Proofs.Decimal.Nearest
import ApiTypes.Proofs.LastWins
import ApiTypes.Proofs.Table
import ApiTypes.Proofs.SealedComment
import ApiTypes.Proofs.Yaml
import ApiTypes.Proofs.PropertyKey
import ApiTypes.Proofs.SegmentEncoding
