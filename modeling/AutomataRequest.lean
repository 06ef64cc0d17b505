import AutomataRequest.Command
import AutomataRequest.CommandLine.Flag
import AutomataRequest.CommandLine.Given
import AutomataRequest.CommandLine.Parse
import AutomataRequest.CommandLine.Usage
import AutomataRequest.Config
import AutomataRequest.Encoding
import AutomataRequest.Fault
import AutomataRequest.Files
import AutomataRequest.Json.CommandText
import AutomataRequest.Json.Cursor
import AutomataRequest.Json.Failure
import AutomataRequest.Json.ReadNumber
import AutomataRequest.Json.ReadText
import AutomataRequest.Json.Reader
import AutomataRequest.Json.Text
import AutomataRequest.Log.Call
import AutomataRequest.Log.Capture
import AutomataRequest.Log.Event
import AutomataRequest.Log.Filter
import AutomataRequest.Log.Line
import AutomataRequest.Log.Recorder
import AutomataRequest.Log.Session
import AutomataRequest.Lookup
import AutomataRequest.Main
import AutomataRequest.Mismatch
import AutomataRequest.Number.Binary64
import AutomataRequest.Number.Decimal
import AutomataRequest.Number.Shortest
import AutomataRequest.Operation
import AutomataRequest.Options
import AutomataRequest.Output
import AutomataRequest.Proofs.CommandLine.AcceptedLines
import AutomataRequest.Proofs.CommandLine.CommandArguments
import AutomataRequest.Proofs.CommandLine.FlagOccurrences
import AutomataRequest.Proofs.CommandLine.FrontEnds
import AutomataRequest.Proofs.CommandLine.GivenValues
import AutomataRequest.Proofs.CommandLine.GlobalFlags
import AutomataRequest.Proofs.CommandLine.OptionFlags
import AutomataRequest.Proofs.CommandLine.Parts
import AutomataRequest.Proofs.CommandLine.ProgramFlag
import AutomataRequest.Proofs.CommandLine.SplitParts
import AutomataRequest.Proofs.CommandLine.Steps
import AutomataRequest.Proofs.ConfigLoading
import AutomataRequest.Proofs.ConfigSchema
import AutomataRequest.Proofs.FaultMessage
import AutomataRequest.Proofs.FaultReport
import AutomataRequest.Proofs.InputSource
import AutomataRequest.Proofs.Json.CommandSchema
import AutomataRequest.Proofs.Json.Decoding
import AutomataRequest.Proofs.Json.WrittenCommand
import AutomataRequest.Proofs.Json.WrittenText
import AutomataRequest.Proofs.Json.WrittenTokens
import AutomataRequest.Proofs.Log.CallRecords
import AutomataRequest.Proofs.Log.CleanLines
import AutomataRequest.Proofs.Log.OperandSilence
import AutomataRequest.Proofs.Log.RunLines
import AutomataRequest.Proofs.LogIndependence
import AutomataRequest.Proofs.Lookup
import AutomataRequest.Proofs.LookupLanguage
import AutomataRequest.Proofs.OptionShape
import AutomataRequest.Proofs.OptionToken
import AutomataRequest.Proofs.PairLine
import AutomataRequest.Proofs.ProgramLine
import AutomataRequest.Proofs.RequestLine
import AutomataRequest.Proofs.RunStages
import AutomataRequest.Proofs.ShellWords
import AutomataRequest.Proofs.SpellingIndependence
import AutomataRequest.Proofs.Text.Spelling
import AutomataRequest.Proofs.Text.StyleSequences
import AutomataRequest.Proofs.Text.Utf8
import AutomataRequest.Proofs.TokenLines
import AutomataRequest.Run
import AutomataRequest.Text.Blank
import AutomataRequest.Text.Bytes
import AutomataRequest.Text.Hidden
import AutomataRequest.Text.LetterCase
import AutomataRequest.Text.Quoted
import AutomataRequest.Text.ShellWords
import AutomataRequest.Text.Symbol
import AutomataRequest.Text.Visible
import AutomataRequest.Tokens
import AutomataRequest.Toml.Cursor
import AutomataRequest.Toml.Document
import AutomataRequest.Toml.Fit
import AutomataRequest.Toml.Misfit
import AutomataRequest.Toml.Node
import AutomataRequest.Toml.ReadNumber
import AutomataRequest.Toml.ReadText
import AutomataRequest.Toml.ReadValue
