import ProtoTypings.Main
import ProtoTypings.Proofs.Accounting
import ProtoTypings.Proofs.Braces.Document
import ProtoTypings.Proofs.Printed.Generation
import ProtoTypings.Proofs.Choices.SideBySide
import ProtoTypings.Proofs.Choices.Streams
import ProtoTypings.Proofs.Choices.Signatures
import ProtoTypings.Proofs.Choices.Dialects
import ProtoTypings.Proofs.Choices.Deletions
import ProtoTypings.Proofs.Overrides
import ProtoTypings.Proofs.Configurations
import ProtoTypings.Proofs.Formatting
import ProtoTypings.Proofs.Command.Documents
import ProtoTypings.Proofs.Spacing.Methods
import ProtoTypings.Proofs.Spacing.Words
import ProtoTypings.Proofs.Spacing.Members
import ProtoTypings.Proofs.LineEnds
import ProtoTypings.Proofs.Sources
import ProtoTypings.Proofs.Contents
import ProtoTypings.Proofs.InsideOut
import ProtoTypings.Proofs.Recursion
import ProtoTypings.Proofs.Names.Stability
import ProtoTypings.Proofs.Declarations.Remains
