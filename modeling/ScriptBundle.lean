import ScriptBundle.Main
import ScriptBundle.Proofs.Block.Place
import ScriptBundle.Proofs.Text.Search
import ScriptBundle.Proofs.Block.Expression
import ScriptBundle.Proofs.Block.Cutting
import ScriptBundle.Proofs.Block.Joined
import ScriptBundle.Proofs.Block.Survivors
import ScriptBundle.Proofs.Block.Pieces
import ScriptBundle.Proofs.Bundle
import ScriptBundle.Proofs.Block.Sealed
import ScriptBundle.Proofs.Block.Tiled
import ScriptBundle.Proofs.Block.Order
import ScriptBundle.Proofs.Block.Border
import ScriptBundle.Proofs.Border
import ScriptBundle.Proofs.Files.Change
import ScriptBundle.Proofs.Compiler
import ScriptBundle.Proofs.CommandLine
import ScriptBundle.Proofs.Compiler.Result
import ScriptBundle.Proofs.Files.Altered
import ScriptBundle.Proofs.Sources.Repeats
import ScriptBundle.Proofs.Uncompiled
import ScriptBundle.Proofs.Pattern.Walk
import ScriptBundle.Proofs.Leftover
import ScriptBundle.Block.ByteScan
import ScriptBundle.Proofs.Block.LineByLine
import ScriptBundle.Proofs.Block.Unchanged
import ScriptBundle.Proofs.LabelSet
import ScriptBundle.Proofs.Text.Bytes
import ScriptBundle.Proofs.Block.ByteScan
import ScriptBundle.Proofs.Block.Spaced
import ScriptBundle.Proofs.Sources.Merge
import ScriptBundle.Draft
import ScriptBundle.CommandLine.Item
import ScriptBundle.CommandLine.Matches
import ScriptBundle.LabelList
import ScriptBundle.Proofs.CommandLine.Items
import ScriptBundle.Proofs.CommandLine.Labels
import ScriptBundle.Proofs.CommandLine.Manifest
import ScriptBundle.Proofs.LabelList
import ScriptBundle.Proofs.Compiler.Options
import ScriptBundle.Proofs.LineEndings
