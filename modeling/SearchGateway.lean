import SearchGateway.Main
import SearchGateway.Proofs.Double.Rounding
import SearchGateway.Proofs.Double.Shortest
import SearchGateway.Proofs.Double.Integers
import SearchGateway.Proofs.Json.Numbers
import SearchGateway.Proofs.Json.Texts
import SearchGateway.Proofs.Json.Lines
import SearchGateway.Proofs.Record.RoundTrip
import SearchGateway.Proofs.Action
import SearchGateway.Proofs.Engine.Bulk
import SearchGateway.Proofs.Embedding.Embedder
import SearchGateway.Proofs.Embedding.Giving
import SearchGateway.Proofs.Embedding.Answering
import SearchGateway.Proofs.Consultation
import SearchGateway.Proofs.Segment
import SearchGateway.Proofs.Segment.Division
import SearchGateway.Proofs.Segment.Covering
import SearchGateway.Proofs.Storage.Storing
import SearchGateway.Proofs.Session
import SearchGateway.Proofs.Asking
import SearchGateway.Proofs.Walk
import SearchGateway.Proofs.Discipline
import SearchGateway.Proofs.Turns
import SearchGateway.Proofs.Series
import SearchGateway.Proofs.Digest
import SearchGateway.Proofs.Document
import SearchGateway.Proofs.Storage.ReadingBack
import SearchGateway.Proofs.Storage.Holdings
import SearchGateway.Proofs.Storage.Changes
import SearchGateway.Proofs.Storage.Versions
import SearchGateway.Proofs.Storage.Ingesting
import SearchGateway.Proofs.Storage.Closing
import SearchGateway.Proofs.Storage.Writing
import SearchGateway.Proofs.Storage.Unreadable
import SearchGateway.Proofs.Record.WellFormed
import SearchGateway.Proofs.Record.Extraction
import SearchGateway.Proofs.Record.Tolerance
import SearchGateway.Proofs.Search.Selection
import SearchGateway.Proofs.Search.Meaning
import SearchGateway.Proofs.Search.Standing
import SearchGateway.Proofs.Search.Inquiry
import SearchGateway.Proofs.Search.Consulting
import SearchGateway.Proofs.Index.Mapping
import SearchGateway.Proofs.Search.Addressing
import SearchGateway.Proofs.Storage.Hits
import SearchGateway.Proofs.Container.Orderly
import SearchGateway.Proofs.Engine.Call
import SearchGateway.Proofs.Engine.Acknowledging
import SearchGateway.Proofs.CommandLine.Running
import SearchGateway.Proofs.Ordered
import SearchGateway.Proofs.Storage.Namesakes
import SearchGateway.Proofs.Files
import SearchGateway.Proofs.Storage.Independence
import SearchGateway.Proofs.Storage.Folder
import SearchGateway.Proofs.Storage.Subfolders
import SearchGateway.Proofs.Resumption
import SearchGateway.Proofs.Search.Narrowing
import SearchGateway.Proofs.Record.Projection
import SearchGateway.Proofs.Segment.Refusal
import SearchGateway.Proofs.Segment.Counting
import SearchGateway.Proofs.CommandLine.Centre
