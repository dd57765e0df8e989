import MongoMetrics.Text.Quoted
import MongoMetrics.Text.Ascii
import MongoMetrics.Unicode.Word
import MongoMetrics.Unicode.Fold
import MongoMetrics.Fault
import MongoMetrics.Family
import MongoMetrics.Exposition.Reader
import MongoMetrics.Document.Value
import MongoMetrics.Extraction.Walk
import MongoMetrics.Unicode.Category
import MongoMetrics.Unicode.Script
import MongoMetrics.Unicode.Property
import MongoMetrics.Pattern.Reader
import MongoMetrics.Server.Query
import MongoMetrics.Server.Session
import MongoMetrics.Catalogue.Listing
import MongoMetrics.Server.Deployment
import MongoMetrics.Diagnostics.Locks
import MongoMetrics.Diagnostics.Legacy
import MongoMetrics.Diagnostics.Router
import MongoMetrics.Scrape.Process
import MongoMetrics.Scrape.Roster
import MongoMetrics.Source.Server
import MongoMetrics.Source.Sharding
import MongoMetrics.Main
import MongoMetrics.Proofs.Document.Leaves
import MongoMetrics.Proofs.Extraction.Account
import MongoMetrics.Proofs.Sample.Latest
import MongoMetrics.Proofs.Extraction.Lossless
import MongoMetrics.Proofs.Extraction.Renaming
import MongoMetrics.Proofs.Family.Grouping
import MongoMetrics.Proofs.Scrape.Sequential
import MongoMetrics.Proofs.Scrape.Agreement
import MongoMetrics.Proofs.Scrape.Protocol
import MongoMetrics.Proofs.Exposition.Decoding
import MongoMetrics.Proofs.Catalogue.Contents
import MongoMetrics.Proofs.Service.Scrapes
import MongoMetrics.Proofs.Catalogue.Discovery
import MongoMetrics.Proofs.Service.Failures
import MongoMetrics.Proofs.Service.Lifecycle
import MongoMetrics.Proofs.Service.SignOfLife
import MongoMetrics.Proofs.Server.Filters
import MongoMetrics.Proofs.Server.Deadlines
import MongoMetrics.Proofs.Service.Deadlines
import MongoMetrics.Proofs.Service.Answers
import MongoMetrics.Proofs.Diagnostics.Changes
import MongoMetrics.Proofs.Extraction.Elements
import MongoMetrics.Proofs.Source.Rows
import MongoMetrics.Proofs.Extraction.Containment
import MongoMetrics.Proofs.Scrape.Labelling
import MongoMetrics.Proofs.Service.Labelling
import MongoMetrics.Proofs.Server.Detection
import MongoMetrics.Proofs.Service.Choice
import MongoMetrics.Proofs.Source.Attribution
import MongoMetrics.Proofs.Source.Literal
import MongoMetrics.Proofs.Diagnostics.Locks
import MongoMetrics.Proofs.Extraction.ShortForms
import MongoMetrics.Proofs.Scrape.OnePass
