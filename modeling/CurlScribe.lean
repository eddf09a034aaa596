import CurlScribe.Arguments.Basic
import CurlScribe.Arguments.Scan
import CurlScribe.CommandLine
import CurlScribe.Conversion
import CurlScribe.Flag.Basic
import CurlScribe.Flag.Curl
import CurlScribe.Flag.Table
import CurlScribe.Json.Basic
import CurlScribe.Json.Read
import CurlScribe.Main
import CurlScribe.Noted
import CurlScribe.Number.Binary64
import CurlScribe.Number.Limit
import CurlScribe.Number.Numeral
import CurlScribe.Number.Shortest
import CurlScribe.Request.Basic
import CurlScribe.Request.Build
import CurlScribe.Request.Credentials
import CurlScribe.Request.Data
import CurlScribe.Request.Form
import CurlScribe.Request.Header
import CurlScribe.Request.Location
import CurlScribe.Request.Notice
import CurlScribe.Request.Transfer
import CurlScribe.Shell.AnsiC
import CurlScribe.Shell.Command
import CurlScribe.Shell.Quote
import CurlScribe.Shell.Words
import CurlScribe.Target.AnsiblePlaybook
import CurlScribe.Target.AxiosCall
import CurlScribe.Target.Basic
import CurlScribe.Target.Check
import CurlScribe.Target.Code
import CurlScribe.Target.FetchCall
import CurlScribe.Target.Fields
import CurlScribe.Target.GoProgram
import CurlScribe.Target.Header
import CurlScribe.Target.JsonDocument
import CurlScribe.Target.ObjectLiteral
import CurlScribe.Target.PhpScript
import CurlScribe.Target.Proxy
import CurlScribe.Target.RequestsScript
import CurlScribe.Target.RubyScript
import CurlScribe.Target.StrestFile
import CurlScribe.Text.Basic
import CurlScribe.Text.Blank
import CurlScribe.Text.Case
import CurlScribe.Text.ControlSequence
import CurlScribe.Text.Digit
import CurlScribe.Text.Hex
import CurlScribe.Text.Printable
import CurlScribe.Text.Quoted
import CurlScribe.Text.Ranges
import CurlScribe.Text.Utf8
import CurlScribe.Text.Word
import CurlScribe.Url.Address
import CurlScribe.Url.Form
import CurlScribe.Url.Percent
import CurlScribe.Url.Split
import CurlScribe.Yaml.Basic
import CurlScribe.Yaml.Plain
import CurlScribe.Yaml.Scalar
import CurlScribe.Proofs.Arguments.Origin
import CurlScribe.Proofs.Arguments.Append
import CurlScribe.Proofs.Arguments.Spelling
import CurlScribe.Proofs.Arguments.Setting
import CurlScribe.Proofs.Arguments.Written
import CurlScribe.Proofs.Text.Cut
import CurlScribe.Proofs.Url.Authority
import CurlScribe.Proofs.Request.Location
import CurlScribe.Proofs.Request.WellFormed
import CurlScribe.Proofs.Shell.Layout
import CurlScribe.Proofs.Shell.OnePass
import CurlScribe.Proofs.Arguments.Failure
import CurlScribe.Proofs.Conversion.Warnings
import CurlScribe.Proofs.Url.Accepted
import CurlScribe.Proofs.Request.Relocation
import CurlScribe.Proofs.Arguments.Dependence
import CurlScribe.Proofs.Target.Apostrophed
import CurlScribe.Proofs.Target.Code
import CurlScribe.Proofs.Request.Dependence
import CurlScribe.Proofs.Request.Unsupported
import CurlScribe.Proofs.Url.Userinfo
import CurlScribe.Proofs.Request.Credentials
import CurlScribe.Proofs.Number.Decimal
import CurlScribe.Proofs.Number.Nearest
import CurlScribe.Proofs.Number.Shortest
import CurlScribe.Proofs.Json.Scalar
import CurlScribe.Proofs.Json.Character
import CurlScribe.Proofs.Json.Rendered
import CurlScribe.Proofs.Target.JsonDocument
import CurlScribe.Proofs.Target.Quoted
import CurlScribe.Proofs.Shell.Failure
import CurlScribe.Proofs.Number.Overflow
import CurlScribe.Proofs.Request.Failure
import CurlScribe.Proofs.Target.Failure
import CurlScribe.Proofs.Target.Proxied
import CurlScribe.Proofs.Arguments.Operands
import CurlScribe.Proofs.CommandLine.Outcome
import CurlScribe.Proofs.CommandLine.Terminator
import CurlScribe.Proofs.CommandLine.Verbosity
import CurlScribe.Proofs.Arguments.Extension
import CurlScribe.Proofs.Target.Headers
import CurlScribe.Proofs.Target.WrittenHeaders
import CurlScribe.Proofs.Target.ContentType
import CurlScribe.Proofs.Target.PhpOptions
import CurlScribe.Proofs.Target.PhpHeaders
import CurlScribe.Proofs.Text.Shown
import CurlScribe.Proofs.Text.Around
import CurlScribe.Proofs.Yaml.Scalar
import CurlScribe.Proofs.Yaml.Block
import CurlScribe.Proofs.Target.PartLabel
import CurlScribe.Proofs.Target.PartPlace
import CurlScribe.Proofs.Target.PartPlaybook
import CurlScribe.Proofs.Target.PartTold
import CurlScribe.Proofs.Text.Utf8
import CurlScribe.Proofs.Target.FileUse
import CurlScribe.Proofs.Target.StandardInput
import CurlScribe.Proofs.Target.ProxyUser
import CurlScribe.Proofs.Target.ProxyUserinfo
import CurlScribe.Proofs.Url.Percent
import CurlScribe.Proofs.Url.Spliced
import CurlScribe.Proofs.Target.Grouped
import CurlScribe.Proofs.Target.JsonBody
import CurlScribe.Proofs.Target.RepeatedHeaders
import CurlScribe.Proofs.Target.Imports
import CurlScribe.Proofs.Arguments.Record
import CurlScribe.Proofs.Shell.Encoded
import CurlScribe.Proofs.Url.Query
import CurlScribe.Proofs.Request.Projection
import CurlScribe.Proofs.Url.Encoded
import CurlScribe.Proofs.Request.EncodedUser
import CurlScribe.Proofs.Request.Payload
import CurlScribe.Proofs.Request.Data
import CurlScribe.Proofs.Arguments.Collected
import CurlScribe.Proofs.Url.Form
import CurlScribe.Proofs.Request.Urlencoded
import CurlScribe.Proofs.Request.Form
import CurlScribe.Proofs.Url.FormEncoded
import CurlScribe.Proofs.Target.FormData
import CurlScribe.Proofs.Arguments.Lenient
import CurlScribe.Proofs.Shell.Joined
import CurlScribe.Proofs.Shell.Quoting
import CurlScribe.Proofs.Shell.Begun
import CurlScribe.Proofs.Shell.Continued
import CurlScribe.Proofs.Shell.SingleQuoted
import CurlScribe.Proofs.Flag.Apart
import CurlScribe.Proofs.Flag.Completion
import CurlScribe.Proofs.Arguments.Abbreviation
import CurlScribe.Proofs.Request.Topic
import CurlScribe.Proofs.Request.Precedence
import CurlScribe.Proofs.Request.Headers
import CurlScribe.Proofs.Request.Cookies
import CurlScribe.Proofs.Request.Globbing
import CurlScribe.Proofs.Target.Display
import CurlScribe.Proofs.Target.Statement
import CurlScribe.Proofs.Target.PythonStatements
import CurlScribe.Proofs.Target.PythonValues
import CurlScribe.Proofs.Target.MergedHeaders
import CurlScribe.Proofs.Json.Check
import CurlScribe.Proofs.Target.TemplateText
import CurlScribe.Proofs.Target.ObjectKeys
import CurlScribe.Proofs.Target.GroupedTexts
