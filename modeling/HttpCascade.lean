import HttpCascade.Cascade.MemoryTree
import HttpCascade.Cascade.World
import HttpCascade.CommandLine.Machine
import HttpCascade.Json.Records
import HttpCascade.Main
import HttpCascade.Proofs.Cascade.CallOrder
import HttpCascade.Proofs.Cascade.Completion
import HttpCascade.Proofs.Cascade.Isolation
import HttpCascade.Proofs.Cascade.RenderedResult
import HttpCascade.Proofs.Cascade.Rerooting
import HttpCascade.Proofs.Request.Grammar
import HttpCascade.Proofs.Request.Rendering
import HttpCascade.Proofs.Request.Patch
import HttpCascade.Proofs.Curl.Arguments
import HttpCascade.Proofs.Curl.Transfer
import HttpCascade.Proofs.Files.Entries
import HttpCascade.Proofs.Scaffold.Refusal
import HttpCascade.Proofs.Scaffold.Writing
import HttpCascade.Proofs.Scaffold.Resolution
import HttpCascade.Proofs.Template.Expansion
import HttpCascade.Proofs.Template.Filling
import HttpCascade.Proofs.Template.Leftovers
import HttpCascade.Proofs.Url.Authority
import HttpCascade.Proofs.Cascade.Environment
import HttpCascade.Proofs.Cascade.Confinement
import HttpCascade.Proofs.Cascade.TemplatedUrl
import HttpCascade.Proofs.Text.Endings
import HttpCascade.Proofs.Request.Endings
import HttpCascade.Proofs.Cascade.LineEndings
import HttpCascade.Proofs.Files.Contents
import HttpCascade.Proofs.Files.Directories
import HttpCascade.Proofs.Cascade.Effects
import HttpCascade.Proofs.CommandLine.Build
import HttpCascade.Proofs.Json.Records
import HttpCascade.Proofs.Cascade.Ancestors
import HttpCascade.Proofs.Request.FilledText
import HttpCascade.Proofs.ConfigFile
import HttpCascade.Proofs.Path.NormalForm
import HttpCascade.Proofs.Request.HeaderLines
import HttpCascade.Proofs.Request.Progress
import HttpCascade.Proofs.Request.Parts
import HttpCascade.Proofs.Request.Overlay
import HttpCascade.Proofs.Script.Exports
import HttpCascade.Proofs.Template.Separation
import HttpCascade.Proofs.Request.BlankLine
import HttpCascade.Proofs.Cascade.IgnoredText
